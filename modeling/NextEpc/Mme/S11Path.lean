import NextEpc.Mme.MmeSm
import NextEpc.Mme.S11Context

/-!
# Sending for S11 handlers

`nas-path.c` with the builders of `esm-build.c`, `emm-build.c` and `s1ap-build.c`, as far as the
handlers of S11 messages use them. A builder reads the UE before `nas_security_encode`, which only
changes the counts and the availability of the security context.
-/

namespace NextEpc

/-! ## NAS messages -/

/-- `S1AP_CauseNas_normal_release` and `S1AP_CauseNas_detach` -/
def causeNasNormalRelease : S1apCause := ⟨.nas, 0⟩

def causeNasDetach : S1apCause := ⟨.nas, 2⟩

/-- `S1AP_CauseRadioNetwork_successful_handover` -/
def causeSuccessfulHandover : S1apCause := ⟨.radioNetwork, 2⟩

/-- `ESM_CAUSE_REGULAR_DEACTIVATION` -/
def esmCauseRegularDeactivation : UInt8 := 36

section
variable [OgsCrypt] [MmeCodec]

/-- A message that is integrity protected and ciphered -/
def S11Nas.toNasMessage (nas : S11Nas) : NasMessage where
  securityHeaderType := NasSecurityHeader.integrityProtectedAndCiphered
  protocolDiscriminator := nasProtocolDiscriminatorEmm
  plain := MmeCodec.nasPlainEncode nas

namespace S11Ue
variable (ue : S11Ue)

/-- `nas_security_encode`, with the assertion on what it gives -/
def nasSecurityEncode (nas : S11Nas) : MmeM (S11Ue × Bytes) := do
  let (m, pkbuf, rv) ← NextEpc.nasSecurityEncode ue.toMmeUe nas.toNasMessage
  Fallible.assert .nasPath (rv = .ok)
  let pkbuf ← Fallible.assertSome .nasPath pkbuf
  .ok ({ ue with toMmeUe := m }, pkbuf.data)

/-- Messages of a UE that is registered are protected. -/
def nasEncode (nas : S11Nas) : MmeM (S11Ue × Bytes) :=
  if ue.sm = .registered then ue.nasSecurityEncode nas
  else .ok (ue, MmeCodec.nasPlainEncode nas)

/-- The type of a PDN address is asserted to be IPv4, IPv6 or both. -/
def assertPdnType (paa : Bytes) : MmeM Unit :=
  Fallible.assert .nasPath (MmeCodec.paaPdnType paa ∈ [1, 2, 3])

/-- The options are copied to an array, with a length of one octet. -/
def nasPco (pgwPco : Option Bytes) : MmeM (Option Bytes) :=
  match pgwPco with
  | some pco =>
    if pco = [] then .ok none
    else
      let length := pco.length % 256
      if length ≤ MmeCodec.maxPcoLen then .ok (some (pco.take length)) else .error .outOfBounds
  | none => .ok none

/-- A traffic flow template, with a length of one octet that is asserted not to be zero -/
def nasTft (tft : Option Bytes) : MmeM Bytes := do
  let tft := tft.getD []
  let length := tft.length % 256
  Fallible.assert .nasPath (length ≠ 0)
  .ok (tft.take length)

/-- `esm_build_activate_default_bearer_context_request`. The bearer, which is the only one of its
session, gets the QoS of the PDN. -/
def esmBuildActivateDefaultBearerContextRequest (sess : S11Sess) :
    MmeM (S11Ue × S11Sess × S11Bearer × Bytes) := do
  let pdn ← Fallible.assertSome .nasPath sess.pdn
  let pdn := ue.pdns pdn
  match sess.bearerList with
  | [bearer] => do
    let bearer := { bearer with qos := pdn.qos }
    let sess := { sess with bearerList := [bearer] }
    assertPdnType pdn.paa
    let pco ← nasPco sess.pgwPco
    let nas : S11Nas := .activateDefaultEpsBearerContextRequest bearer.ebi sess.pti bearer.qos
      pdn.apn pdn.paa pdn.ambr pco
    let (ue, esmbuf) ← (ue.putSess sess).nasEncode nas
    .ok (ue, sess, bearer, esmbuf)
  | _ => .error (.assert .nasPath)

end S11Ue

/-- Bit rates of zero become the greatest one, if another is not zero. -/
def Qos.raised (qos : Qos) : Qos :=
  let raise (rate : UInt64) : UInt64 := if rate = 0 then MmeCodec.maxBitRate else rate
  if qos.mbr.downlink ≠ 0 ∨ qos.mbr.uplink ≠ 0 ∨ qos.gbr.downlink ≠ 0 ∨ qos.gbr.uplink ≠ 0 then
    { qos with
      mbr := { downlink := raise qos.mbr.downlink, uplink := raise qos.mbr.uplink }
      gbr := { downlink := raise qos.gbr.downlink, uplink := raise qos.gbr.uplink } }
  else qos

/-- An item for a bearer, whose address is asserted to be there -/
def s1apERab (bearer : S11Bearer) : MmeM S11ERab := do
  Fallible.assert .nasPath (bearer.sgwS1u.ip ≠ [])
  .ok { ebi := bearer.ebi, qos := bearer.qos, sgwS1u := bearer.sgwS1u }

namespace S11Mme
variable (s : S11Mme)

/-! ## S1AP messages -/

/-- A pointer to a connection is used. The timer and the eNB of a connection that was removed are
gone. -/
def useEnbUe (enbUe : EnbUeId) : MmeM Unit :=
  if s.enbUes.live enbUe then .ok () else .error .dangling

/-- A message is encoded, with the assertion on it, and sent. -/
def sendToEnbUe (enbUe : EnbUeId) (pdu : S11Pdu) (nasPdu : Option Bytes) : MmeM S11Mme := do
  s.useEnbUe enbUe
  Fallible.assert .nasPath (MmeCodec.s1apEncodes pdu = true)
  .ok (s.send (.toEnbUe enbUe pdu nasPdu))

def ids (enbUe : EnbUeId) : S1apIds := (s.enbUes.mem enbUe).ids

/-- `CLEAR_ENB_UE_TIMER(enb_ue->t_ue_context_release)` -/
def clearEnbUeTimer (enbUe : EnbUeId) : MmeM S11Mme := do
  s.useEnbUe enbUe
  .ok (s.modifyEnbUe enbUe fun e => { e with tUeContextRelease := .clear })

/-- `s1ap_build_ue_context_release_command` -/
def s1apBuildUeContextReleaseCommand (enbUe : EnbUeId) (cause : S1apCause) : MmeM S11Pdu := do
  let pdu := .ueContextReleaseCommand (s.ids enbUe) cause
  Fallible.assert .nasPath ((s.ids enbUe).mmeUeS1apId ≠ 0)
  Fallible.assert .nasPath (MmeCodec.s1apEncodes pdu = true)
  .ok pdu

/-- `s1ap_send_ue_context_release_command`. Without a delay, a command that is kept is sent again. -/
def s1apSendUeContextReleaseCommand (enbUe : EnbUeId) (cause : S1apCause) (action : UeCtxRelAction)
    (delay : Bool) : MmeM S11Mme := do
  s.useEnbUe enbUe
  if delay then do
    Fallible.assert .nasPath (action ≠ .invalidAction)
    let pdu ← s.s1apBuildUeContextReleaseCommand enbUe cause
    let s := s.modifyEnbUe enbUe fun e => { e with ueCtxRelAction := action }
    .ok (s.send (.delayed enbUe pdu))
  else
    match (s.enbUes.mem enbUe).tUeContextRelease.pkbuf with
    | some pdu => .ok (s.send (.toEnbUe enbUe pdu none))
    | none => do
      Fallible.assert .nasPath (action ≠ .invalidAction)
      let pdu ← s.s1apBuildUeContextReleaseCommand enbUe cause
      let s := s.modifyEnbUe enbUe fun e =>
        { e with
          ueCtxRelAction := action
          tUeContextRelease := { e.tUeContextRelease with pkbuf := some pdu } }
      .ok (s.send (.toEnbUe enbUe pdu none))

/-- `CLEAR_ENB_UE_TIMER` and the command -/
def clearAndRelease (enbUe : EnbUeId) (cause : S1apCause) (action : UeCtxRelAction)
    (delay : Bool) : MmeM S11Mme := do
  let s ← s.clearEnbUeTimer enbUe
  s.s1apSendUeContextReleaseCommand enbUe cause action delay

/-- `s1ap_send_path_switch_ack` -/
def s1apSendPathSwitchAck (mmeUe : MmeUeId) : MmeM S11Mme := do
  let ue := s.mmeUes.mem mmeUe
  let enbUe ← Fallible.assertSome .nasPath ue.enbUe
  s.sendToEnbUe enbUe (.pathSwitchRequestAcknowledge (s.ids enbUe) ue.nhcc ue.nh) none

/-- The bearers of a UE with an indirect tunnel to the SGW, and their tunnels. A tunnel with a TEID
has an address. -/
def forwardedERabs (ue : S11Ue) : List (UInt8 × GtpTunnel × GtpTunnel) :=
  ((ue.sessList.flatMap S11Sess.bearerList).filter fun bearer =>
    bearer.sgwDl.teid ≠ 0 ∨ bearer.sgwUl.teid ≠ 0).map fun bearer =>
      (bearer.ebi, bearer.sgwDl, bearer.sgwUl)

/-- A pointer to a UE is used. -/
def useMmeUe (mmeUe : MmeUeId) : MmeM Unit :=
  if s.mmeUes.live mmeUe then .ok () else .error .dangling

/-- `s1ap_send_handover_command` -/
def s1apSendHandoverCommand (sourceUe : EnbUeId) : MmeM S11Mme := do
  s.useEnbUe sourceUe
  let e := s.enbUes.mem sourceUe
  let mmeUe ← Fallible.assertSome .nasPath e.mmeUe
  s.useMmeUe mmeUe
  let ue := s.mmeUes.mem mmeUe
  s.sendToEnbUe sourceUe
    (.handoverCommand e.ids e.handoverType (forwardedERabs ue) ue.container) none

/-! ## NAS messages -/

/-- `nas_send_to_downlink_nas_transport`. A UE without a connection gets nothing. -/
def nasSendToDownlinkNasTransport (enbUe : Option EnbUeId) (pkbuf : Bytes) : MmeM S11Mme :=
  match enbUe with
  | some enbUe => s.sendToEnbUe enbUe (.downlinkNasTransport (s.ids enbUe)) (some pkbuf)
  | none => .ok s

/-- `emm_build_attach_accept` -/
def emmBuildAttachAccept (ue : S11Ue) (esmbuf : Bytes) : MmeM (S11Ue × Bytes) := do
  let servedTai ← Fallible.assertSome .nasPath (s.servedTai ue.tai)
  { ue with guti := none }.nasSecurityEncode
    (.attachAccept (ue.nasEps.data &&& 0x07) servedTai esmbuf ue.guti (s.pTmsiIsAvailable ue))

/-- The location area that is sent for a fallback to CS -/
def registeredLai (ue : S11Ue) : Option (Bytes × Nat) :=
  if ue.nasEps.type = .extendedServiceRequest then
    (s.pTmsiIsAvailable ue).map fun lai => (ue.tai.plmnId, lai.1)
  else none

/-- `s1ap_build_initial_context_setup_request`. The bearers keep the bit rates that are raised. -/
def s1apBuildInitialContextSetupRequest (ue : S11Ue) (enbUe : EnbUeId) :
    MmeM (S11Ue × S11Pdu) := do
  s.useEnbUe enbUe
  let ue := ue.updateBearers fun bearer => { bearer with qos := bearer.qos.raised }
  let eRabs ← (ue.sessList.flatMap S11Sess.bearerList).mapM s1apERab
  let pdu := .initialContextSetupRequest (s.ids enbUe) ue.ambr eRabs ue.eea ue.eia ue.kenb
    (s.registeredLai ue) ue.ueRadioCapability
  Fallible.assert .nasPath (MmeCodec.s1apEncodes pdu = true)
  .ok (ue, pdu)

/-- `nas_send_attach_accept` for a UE with one session that has one bearer -/
def nasSendAttachAccept (mmeUe : MmeUeId) (ue : S11Ue) : MmeM S11Mme :=
  match ue.sessList with
  | [sess] =>
    match sess.bearerList with
    | [_] =>
      match ue.t3450.pkbuf with
      | some kenb => do
        let enbUe ← Fallible.assertSome .nasPath ue.enbUe
        s.useEnbUe enbUe
        .ok (s.send (.toEnbUeAgain enbUe kenb))
      | none => do
        let (ue, _, _, esmbuf) ← ue.esmBuildActivateDefaultBearerContextRequest sess
        let (ue, emmbuf) ← s.emmBuildAttachAccept ue esmbuf
        let enbUe ← Fallible.assertSome .nasPath ue.enbUe
        let (ue, pdu) ← s.s1apBuildInitialContextSetupRequest ue enbUe
        let ue := { ue with toMmeUe := { ue.toMmeUe with
          t3450 := { ue.t3450 with pkbuf := some ue.kenb } } }
        .ok ((s.putMmeUe mmeUe ue).send (.toEnbUe enbUe pdu (some emmbuf)))
    | _ => .error (.assert .nasPath)
  | _ => .error (.assert .nasPath)

/-- `nas_send_detach_accept` -/
def nasSendDetachAccept (mmeUe : MmeUeId) : MmeM S11Mme := do
  let ue := s.mmeUes.mem mmeUe
  let enbUe ← Fallible.assertSome .nasPath ue.enbUe
  let s ← if ue.nasEps.switchOff then .ok s
    else do
      let (ue, emmbuf) ← ue.nasSecurityEncode .detachAccept
      (s.putMmeUe mmeUe ue).nasSendToDownlinkNasTransport (some enbUe) emmbuf
  s.clearAndRelease enbUe causeNasDetach .s1NormalRelease false

/-- `s1ap_build_e_rab_setup_request` and `nas_send_to_enb`. The bearer keeps the bit rates that are
raised. -/
def sendERabSetupRequest (mmeUe : MmeUeId) (ue : S11Ue) (sess : S11Sess) (bearer : S11Bearer)
    (esmbuf : Bytes) : MmeM S11Mme := do
  let enbUe ← Fallible.assertSome .nasPath ue.enbUe
  let bearer := { bearer with qos := bearer.qos.raised }
  let eRab ← s1apERab bearer
  (s.putMmeUe mmeUe (ue.putBearer sess bearer)).sendToEnbUe enbUe
    (.eRabSetupRequest (s.ids enbUe) eRab) (some esmbuf)

/-- `nas_send_activate_default_bearer_context_request` -/
def nasSendActivateDefaultBearerContextRequest (mmeUe : MmeUeId) (ue : S11Ue) (sess : S11Sess) :
    MmeM S11Mme := do
  let (ue, sess, bearer, esmbuf) ← ue.esmBuildActivateDefaultBearerContextRequest sess
  s.sendERabSetupRequest mmeUe ue sess bearer esmbuf

/-- `nas_send_activate_dedicated_bearer_context_request` -/
def nasSendActivateDedicatedBearerContextRequest (mmeUe : MmeUeId) (ue : S11Ue) (sess : S11Sess)
    (bearer : S11Bearer) : MmeM S11Mme := do
  let linkedBearer ← Fallible.assertSome .nasPath sess.defaultBearer
  let tft ← S11Ue.nasTft bearer.tft
  let (ue, esmbuf) ← ue.nasSecurityEncode
    (.activateDedicatedEpsBearerContextRequest bearer.ebi linkedBearer.ebi bearer.qos tft)
  s.sendERabSetupRequest mmeUe ue sess bearer esmbuf

/-- `nas_send_modify_bearer_context_request` -/
def nasSendModifyBearerContextRequest (mmeUe : MmeUeId) (ue : S11Ue) (sess : S11Sess)
    (bearer : S11Bearer) (qosPresence tftPresence : Bool) : MmeM S11Mme := do
  let tft ← if tftPresence then do
      let tft ← S11Ue.nasTft bearer.tft
      .ok (some tft)
    else .ok none
  let (ue', esmbuf) ← ue.nasSecurityEncode (.modifyEpsBearerContextRequest bearer.ebi sess.pti
    (if qosPresence then some bearer.qos else none) tft)
  if qosPresence then do
    let enbUe ← Fallible.assertSome .nasPath ue.enbUe
    let bearer := { bearer with qos := bearer.qos.raised }
    (s.putMmeUe mmeUe (ue'.putBearer sess bearer)).sendToEnbUe enbUe
      (.eRabModifyRequest (s.ids enbUe) bearer.ebi bearer.qos) (some esmbuf)
  else (s.putMmeUe mmeUe ue').nasSendToDownlinkNasTransport ue.enbUe esmbuf

/-- `nas_send_deactivate_bearer_context_request` -/
def nasSendDeactivateBearerContextRequest (mmeUe : MmeUeId) (ue : S11Ue) (sess : S11Sess)
    (bearer : S11Bearer) : MmeM S11Mme := do
  let (ue', esmbuf) ← ue.nasSecurityEncode
    (.deactivateEpsBearerContextRequest bearer.ebi sess.pti esmCauseRegularDeactivation)
  let enbUe ← Fallible.assertSome .nasPath ue.enbUe
  (s.putMmeUe mmeUe ue').sendToEnbUe enbUe
    (.eRabReleaseCommand (s.ids enbUe) ue.ambr bearer.ebi causeNasNormalRelease) (some esmbuf)

end S11Mme

end

end NextEpc

import NextEpc.Mme.S1apContext

/-!
# Sending for S1AP handlers

`s1ap-path.c`, `mme-path.c` and `mme-gtp-path.c`, as far as the handlers of S1AP messages use them.
Messages are taken to be built and sent without an error.
-/

namespace NextEpc

namespace S1Mme
section
variable (s : S1Mme)

/-! ## To eNBs -/

/-- `CLEAR_ENB_UE_TIMER(enb_ue->t_ue_context_release)` -/
def clearEnbUeTimer (enbUe : EnbUeId) : S1Mme :=
  s.modifyEnbUe enbUe fun e => { e with tUeContextRelease := .clear }

/-- `s1ap_send_ue_context_release_command`. Without a delay, a command that is kept is sent again. -/
def s1apSendUeContextReleaseCommand (enbUe : EnbUeId) (cause : S1apCause) (action : UeCtxRelAction)
    (delay : Bool) : MmeM S1Mme :=
  if delay then do
    Fallible.assert .s1apHandler (action ≠ .invalidAction)
    let s := s.modifyEnbUe enbUe fun e => { e with ueCtxRelAction := action }
    .ok (s.send (.delayed enbUe (.ueContextReleaseCommand cause)))
  else
    match (s.enbUes.mem enbUe).tUeContextRelease.pkbuf with
    | some kept => .ok (s.send (.toEnbUe enbUe (.ueContextReleaseCommand kept)))
    | none => do
      Fallible.assert .s1apHandler (action ≠ .invalidAction)
      let s := s.modifyEnbUe enbUe fun e =>
        { e with
          ueCtxRelAction := action
          tUeContextRelease := { e.tUeContextRelease with pkbuf := some cause } }
      .ok (s.send (.toEnbUe enbUe (.ueContextReleaseCommand cause)))

/-- `S1AP_CauseNas_normal_release` -/
def nasNormalRelease : S1apCause := ⟨.nas, 0⟩

/-- `s1ap_send_handover_request` -/
def s1apSendHandoverRequest [Ogslib] (slot : Option EnbUeId) (mmeUe : MmeUeId)
    (targetEnb : MmeEnbId) :
    MmeM S1Mme := do
  let sourceUe ← Fallible.assertSome .s1apHandler (s.mmeUes.mem mmeUe).enbUe
  Fallible.assert .s1apHandler ((s.enbUes.mem sourceUe).targetUe = none)
  let targetUe ← Fallible.assertSome .s1apHandler (s.enbUePoolAlloc slot)
  let s ← (s.enbUeAdd targetUe targetEnb).sourceUeAssociateTargetUe sourceUe targetUe
  .ok (s.send (.toEnbUe targetUe .handoverRequest))

/-! ## To the SGW -/

/-- `mme_gtp_send_modify_bearer_request` -/
def mmeGtpSendModifyBearerRequest (mmeUe : MmeUeId) (ebi : UInt8) (uliPresence : Bool) : S1Mme :=
  s.send (.toSgw mmeUe (.modifyBearerRequest ebi uliPresence))

/-- `MME_HAVE_SGW_S1U_PATH`, with the default bearer -/
def haveSgwS1uPath (sess : S1Sess) : Option S1Bearer :=
  sess.bearerList.head?.filter fun bearer => bearer.sgwS1u.teid ≠ 0

/-- A Delete Session Request for a session with a path to the SGW that is not yet deleted. -/
def mmeGtpSendDeleteSessionRequest (mmeUe : MmeUeId) (sess : S1Sess) : S1Mme :=
  match haveSgwS1uPath sess with
  | some bearer =>
    if bearer.sm = .pdnWillDisconnect then s
    else s.send (.toSgw mmeUe (.deleteSessionRequest bearer.ebi))
  | none => s

/-- `mme_gtp_send_delete_all_sessions`. Sessions without a path to the SGW are removed. -/
def mmeGtpSendDeleteAllSessions (mmeUe : MmeUeId) : S1Mme :=
  if (s.mmeUes.mem mmeUe).sessionContextWillDeleted then s
  else
    let sessList := (s.mmeUes.mem mmeUe).sessList
    let s := s.modifyMmeUe mmeUe fun ue =>
      { ue with
        sessionContextWillDeleted := true
        sessList := ue.sessList.filter fun sess => (haveSgwS1uPath sess).isSome }
    sessList.foldl (fun s sess => s.mmeGtpSendDeleteSessionRequest mmeUe sess) s

/-! ## To the eNB or to the SGW -/

/-- `mme_send_delete_session_or_ue_context_release` -/
def mmeSendDeleteSessionOrUeContextRelease (mmeUe : MmeUeId) (enbUe : EnbUeId) : MmeM S1Mme :=
  if (s.mmeUes.mem mmeUe).SessionContextIsAvailable then
    .ok (s.mmeGtpSendDeleteAllSessions mmeUe)
  else
    (s.clearEnbUeTimer enbUe).s1apSendUeContextReleaseCommand enbUe nasNormalRelease
      .ueContextRemove false

/-- `mme_send_release_access_bearer_or_ue_context_release` -/
def mmeSendReleaseAccessBearerOrUeContextRelease (mmeUe : MmeUeId) (enbUe : EnbUeId) :
    MmeM S1Mme :=
  if (s.mmeUes.mem mmeUe).bearerContextIsActive then
    .ok (s.send (.toSgw mmeUe .releaseAccessBearersRequest))
  else
    (s.clearEnbUeTimer enbUe).s1apSendUeContextReleaseCommand enbUe nasNormalRelease
      .s1NormalRelease false

/-! ## NAS messages -/

/-- `ogs_queue_push` -/
def push (taken : Bool) (event : S1NasEvent) : S1Mme :=
  if taken then { s with queue := s.queue ++ [event] } else s

end

section
variable [OgsCrypt] (s : S1Mme)

/-- `nas_security_decode` of a PDU from a connection that has a UE -/
def nasSecurityDecode (enbUe : EnbUeId) (type : NasSecurityHeaderType) (nasbuf : Pkbuf) :
    MmeM (S1Mme × Pkbuf) :=
  match (s.enbUes.mem enbUe).mmeUe with
  | some mmeUe => do
    let (ue, nasbuf, rv) ← NextEpc.nasSecurityDecode (s.mmeUes.mem mmeUe).toMmeUe type nasbuf
    Fallible.assert .s1apSendToNas (rv = .ok)
    .ok (s.modifyMmeUe mmeUe fun m => { m with toMmeUe := ue }, nasbuf)
  | none => .ok (s, nasbuf)

/-- `s1ap_send_to_nas`, which is asserted to return `OGS_OK` -/
def s1apSendToNas (taken : Bool) (enbUe : EnbUeId) (s1apCode : S1apProcedureCode)
    (nasPdu : Option Bytes) : MmeM S1Mme := do
  let nasPdu ← Fallible.assertSome .s1apSendToNas nasPdu
  let (type, nasbuf) ← Fallible.assertSome .s1apSendToNas (← s1apStripSecurityHeader nasPdu)
  let (s, nasbuf) ← s.nasSecurityDecode enbUe type nasbuf
  let first ← Fallible.assertSome .s1apSendToNas nasbuf.data.head?
  if first &&& 0x0f = 0x07 then
    .ok (s.push taken (.emmMessage enbUe s1apCode type nasbuf))
  else if first &&& 0x0f = 0x02 then do
    let mmeUe ← Fallible.assertSome .s1apSendToNas (s.enbUes.mem enbUe).mmeUe
    .ok (s.push taken (.esmMessage mmeUe nasbuf))
  else .error (.assert .s1apSendToNas)

end

end S1Mme

end NextEpc

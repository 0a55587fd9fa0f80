import NextEpc.Mme.Emm

/-!
# The EMM state machine

`emm-handler.c` and `emm-sm.c`. A state is given by what it does with a message and with a
timer; `ogsFsmDispatch` runs the current state and, if it has changed, what the new state
does when it is entered. The messages that reject a request are plain ones and leave the
context as it is.
-/

namespace NextEpc

section
variable [OgsCrypt]

/-! ## `emm-handler.c` -/

/-- The octet with the type of an attach, an update, a service or a detach. -/
def Mme.setNasEps (m : Mme) (type : MmeEpsType) (data : UInt8) : Mme :=
  { m with ue := { m.ue with nasEps := ⟨type, nasKeySetIdentifier data, data⟩ } }

/-- `mme_ue_set_imsi`, for an identity of type IMSI. -/
def Mme.setImsi (m : Mme) (imsiLen : Option Nat) : Mme :=
  match imsiLen with
  | some imsiLen => { m with ue := { m.ue with imsiLen := imsiLen } }
  | none => m

def Mme.setUeNetworkCapability (m : Mme) (eea eia : UInt8) : Mme :=
  { m with ue := { m.ue with eea := eea, eia := eia } }

/-- `KeNB` is derived again if the security context is valid. -/
def Mme.kdfEnbIfValid (m : Mme) : Mme :=
  if m.ue.SecurityContextIsValid then m.kdfEnb else m

def emmHandleAttachRequest (cfg : MmeConfig) (env : MmeEnv) (request : AttachRequest) (m : Mme) :
    MmeM (Mme × Rv) := do
  Fallible.assert .emmHandler (m.ue.enbUe.isSome = true)
  Fallible.assert .emmHandler (request.esmMessageContainer ≠ [])
  let m := (m.setNasEps .attachRequest request.epsAttachType).clearAllTimers.kdfEnbIfValid
  if env.servedTai = false then .ok (m, .error)
  else
    let m := m.setUeNetworkCapability request.eea request.eia
    if mmeSelectedIntAlgorithm cfg m.ue = 0 then .ok (m, .error)
    else
      let m := m.setImsi request.imsiLen
      .ok ({ m with ue := { m.ue with pdnConnectivityRequest := request.esmMessageContainer } },
        .ok)

/-- The EMM Information that follows is protected. -/
def emmHandleAttachComplete (env : MmeEnv) (esmMessageContainer : Bytes) (m : Mme) :
    MmeM Mme := do
  let m ← nasSendEmmToEsm env esmMessageContainer m
  emmBuildCiphered env.plain m

omit [OgsCrypt] in
def emmHandleIdentityResponse (imsiLen : Option Nat) (m : Mme) : MmeM Mme := do
  Fallible.assert .emmHandler (m.ue.enbUe.isSome = true)
  Fallible.assert .emmHandler (imsiLen ≠ some 0)
  .ok (m.setImsi imsiLen)

omit [OgsCrypt] in
def emmHandleDetachRequest (detachType : UInt8) (m : Mme) : Mme :=
  m.setNasEps .detachRequestFromUe detachType

def emmHandleServiceRequest (ksi : UInt8) (m : Mme) : Mme :=
  let nasEps := { m.ue.nasEps with type := .serviceRequest, ksi := ksi }
  ({ m with ue := { m.ue with nasEps := nasEps } }).clearAllTimers.kdfEnbIfValid

omit [OgsCrypt] in
def emmHandleTauRequest (env : MmeEnv) (request : TrackingAreaUpdateRequest) (m : Mme) :
    MmeM (Mme × Rv) := do
  Fallible.assert .emmHandler (m.ue.enbUe.isSome = true)
  let m := (m.setNasEps .tauRequest request.epsUpdateType).clearAllTimers
  if env.servedTai = false then .ok (m, .error)
  else match request.ueNetworkCapability with
  | some (eea, eia) => .ok (m.setUeNetworkCapability eea eia, .ok)
  | none => .ok (m, .ok)

omit [OgsCrypt] in
def emmHandleExtendedServiceRequest (env : MmeEnv) (serviceType : UInt8) (m : Mme) :
    MmeM (Mme × Rv) := do
  Fallible.assert .emmHandler (m.ue.enbUe.isSome = true)
  let m := (m.setNasEps .extendedServiceRequest serviceType).clearAllTimers
  .ok (m, if env.servedTai = false then .error else .ok)

/-! ## `emm_state_de_registered` and `emm_state_registered` -/

/-- `OGS_NAS_SERVICE_TYPE_CS_FALLBACK_FROM_UE`, `_TO_UE` and `_EMERGENCY_CALL_FROM_UE` -/
def nasServiceTypeKnown (serviceType : UInt8) : Bool :=
  serviceType == 0 || serviceType == 1 || serviceType == 2

/-- A Service Request, after `emm_handle_service_request`. -/
def commonRegisterServiceRequest (m : Mme) : MmeM Mme :=
  if ¬m.ue.HaveImsi then .ok (m.fsmTran .exception)
  else if ¬m.ue.SecurityContextIsValid then .ok (m.fsmTran .exception)
  else s1apSendInitialContextSetupRequest m

def commonRegisterAttach (env : MmeEnv) (m : Mme) : MmeM Mme :=
  if m.ue.SecurityContextIsValid then do
    let m ← nasSendEmmToEsm env m.ue.pdnConnectivityRequest m
    .ok (m.fsmTran .initialContextSetup)
  else if m.ue.SessionContextIsAvailable then
    .ok ((mmeGtpSendDeleteAllSessions m).fsmTran .authentication)
  else .ok ((mmeS6aSendAir m).fsmTran .authentication)

/-- The access bearers or the S1 connection are released where no bearer is asked for. -/
def commonRegisterTau (procedureCode : S1apProcedureCode) (env : MmeEnv) (m : Mme) :
    MmeM Mme :=
  if ¬m.ue.SessionContextIsAvailable then .ok (m.fsmTran .exception)
  else if ¬m.ue.SecurityContextIsValid then .ok ((mmeS6aSendAir m).fsmTran .authentication)
  else match procedureCode with
  | .initialUeMessage =>
    if m.ue.nasEps.activeFlag then nasSendTauAccept .initialContextSetup env.plain m
    else nasSendTauAccept .downlinkNasTransport env.plain m
  | .uplinkNasTransport => nasSendTauAccept .downlinkNasTransport env.plain m
  | _ => .error (.assert .emmSm)

def commonRegisterExtendedService (procedureCode : S1apProcedureCode) (env : MmeEnv) (m : Mme) :
    MmeM Mme :=
  if env.pTmsi = false then .ok (m.fsmTran .exception)
  else if ¬m.ue.SessionContextIsAvailable then .ok (m.fsmTran .exception)
  else if ¬m.ue.SecurityContextIsValid then .ok (m.fsmTran .exception)
  else match procedureCode with
  | .initialUeMessage =>
    if nasServiceTypeKnown m.ue.nasEps.serviceType then s1apSendInitialContextSetupRequest m
    else .ok (m.fsmTran .exception)
  | .uplinkNasTransport =>
    if nasServiceTypeKnown m.ue.nasEps.serviceType then s1apSendUeContextModificationRequest m
    else .ok (m.fsmTran .exception)
  | _ => .error (.assert .emmSm)

/-- With a P-TMSI the VLR is told first and the detach goes on with its answer. -/
def commonRegisterDetach (env : MmeEnv) (m : Mme) : MmeM Mme :=
  if env.pTmsi then .ok m else mmeSendDeleteSessionOrDetach env.plain m

/-- The end of `common_register_state`, for the request in `nas_eps`. -/
def commonRegisterRequest (procedureCode : S1apProcedureCode) (env : MmeEnv) (m : Mme) :
    MmeM Mme :=
  if ¬m.ue.HaveImsi then .ok (nasSendIdentityRequest m.clearT3470)
  else do
    Fallible.assert .emmSm (m.ue.enbUe.isSome = true)
    match m.ue.nasEps.type with
    | .attachRequest => commonRegisterAttach env m
    | .tauRequest => commonRegisterTau procedureCode env m
    | .extendedServiceRequest => commonRegisterExtendedService procedureCode env m
    | _ => .error (.assert .emmSm)

/-- What follows a handler that can fail. -/
def unlessError (rv : Rv) (next : Mme → MmeM Mme) (m : Mme) : MmeM Mme :=
  if rv = .ok then next m else .ok (m.fsmTran .exception)

/-- What follows a request of a UE whose identity has to be known. -/
def unlessUnknown (next : Mme → MmeM Mme) (m : Mme) : MmeM Mme :=
  if m.ue.HaveImsi then next m else .ok (m.fsmTran .exception)

def commonRegisterBody (cfg : MmeConfig) (env : MmeEnv) (procedureCode : S1apProcedureCode)
    (body : EmmBody) (m : Mme) : MmeM Mme :=
  match body with
  | .identityResponse imsiLen => do
    let m ← emmHandleIdentityResponse imsiLen m.clearT3470
    unlessUnknown (commonRegisterRequest procedureCode env) m
  | .attachRequest request => do
    let (m, rv) ← emmHandleAttachRequest cfg env request m
    unlessError rv (commonRegisterRequest procedureCode env) m
  | .trackingAreaUpdateRequest request => do
    let (m, rv) ← emmHandleTauRequest env request m
    unlessError rv (unlessUnknown (commonRegisterRequest procedureCode env)) m
  | .extendedServiceRequest serviceType => do
    let (m, rv) ← emmHandleExtendedServiceRequest env serviceType m
    unlessError rv (unlessUnknown (commonRegisterRequest procedureCode env)) m
  | .emmStatus => .ok (m.fsmTran .exception)
  | .detachRequest detachType => do
    let m ← commonRegisterDetach env (emmHandleDetachRequest detachType m)
    .ok (m.fsmTran .deRegistered)
  | _ => .ok m

def commonRegisterState (cfg : MmeConfig) (env : MmeEnv) (h : Handling) (m : Mme) : MmeM Mme := do
  Fallible.assert .emmSm (m.ue.enbUe.isSome = true)
  match h.message.serviceRequest with
  | some ksi => commonRegisterServiceRequest (emmHandleServiceRequest ksi m)
  | none => commonRegisterBody cfg env h.event.s1apCode h.message.body m

omit [OgsCrypt] in
/-- T3413 is about paging. -/
def commonRegisterTimer (cfg : MmeConfig) (id : MmeTimerId) (m : Mme) : Mme :=
  match id with
  | .t3470 =>
    if cfg.t3470MaxCount ≤ m.ue.t3470.retryCount then m.clearT3470.fsmTran .exception
    else nasSendIdentityRequest
      { m with ue := { m.ue with t3470 := { m.ue.t3470 with
          retryCount := m.ue.t3470.retryCount + 1 } } }
  | _ => m

/-! ## `emm_state_authentication` -/

/-- The octets of `mme_ue_t` from `xres` on. -/
def MmeUe.octetsFromXres (ue : MmeUe) : Bytes :=
  ue.xres.toList ++ [ue.xresLen] ++ ue.kasme.toList ++ ue.rand.toList ++ ue.knasInt.toList ++
    ue.knasEnc.toList

omit [OgsCrypt] in
/-- `memcmp(res, mme_ue->xres, length) == 0`, with the memory behind `knas_enc`. -/
def MmeUe.resEqual (ue : MmeUe) (tail res : Bytes) : Bool :=
  res.isPrefixOf (ue.octetsFromXres ++ tail)

/-- `EMM_CAUSE_SYNCH_FAILURE` -/
def emmCauseSynchFailure : UInt8 := 21

/-- The branches for an Attach Request and a Detach Request that three states share. -/
def emmDetach (env : MmeEnv) (detachType : UInt8) (m : Mme) : MmeM Mme := do
  let m ← mmeSendDeleteSessionOrDetach env.plain (emmHandleDetachRequest detachType m)
  .ok (m.fsmTran .deRegistered)

def emmAttachAgain (cfg : MmeConfig) (env : MmeEnv) (request : AttachRequest)
    (next : Mme → Mme) (m : Mme) : MmeM Mme := do
  let (m, rv) ← emmHandleAttachRequest cfg env request m
  unlessError rv (fun m => .ok ((next m).fsmTran .authentication)) m

def emmStateAuthentication (cfg : MmeConfig) (env : MmeEnv) (h : Handling) (m : Mme) :
    MmeM Mme :=
  match h.message.body with
  | .authenticationResponse res =>
    let m := m.clearT3460
    if m.ue.resEqual h.tail res then .ok (m.fsmTran .securityMode)
    else .ok (m.fsmTran .exception)
  | .authenticationFailure emmCause =>
    let m := m.clearT3460
    if emmCause = emmCauseSynchFailure then .ok (mmeS6aSendAir m)
    else .ok (m.fsmTran .exception)
  | .attachRequest request => emmAttachAgain cfg env request mmeS6aSendAir m
  | .emmStatus => .ok (m.fsmTran .exception)
  | .detachRequest detachType => emmDetach env detachType m
  | _ => .ok m

omit [OgsCrypt] in
def emmStateAuthenticationTimer (cfg : MmeConfig) (id : MmeTimerId) (m : Mme) : MmeM Mme :=
  match id with
  | .t3460 =>
    if cfg.t3460MaxCount ≤ m.ue.t3460.retryCount then .ok (m.fsmTran .exception)
    else nasSendAuthenticationRequest none
      { m with ue := { m.ue with t3460 := { m.ue.t3460 with
          retryCount := m.ue.t3460.retryCount + 1 } } }
  | _ => .ok m

/-! ## `emm_state_security_mode` -/

/-- A Security Mode Complete. The state that follows depends on the request. -/
def emmSecurityModeComplete (nasType : NasSecurityHeaderType) (m : Mme) : MmeM Mme :=
  let m := m.clearT3460
  if nasType.integrityProtected = false then .ok (m.fsmTran .exception)
  else if ¬m.ue.SecurityContextIsValid then .ok (m.fsmTran .exception)
  else
    let m := m.kdfEnb
    match m.ue.nasEps.type with
    | .attachRequest => .ok (m.fsmTran .initialContextSetup)
    | .serviceRequest | .tauRequest => .ok (m.fsmTran .registered)
    | _ => .error (.assert .emmSm)

def emmStateSecurityMode (cfg : MmeConfig) (env : MmeEnv) (h : Handling) (m : Mme) :
    MmeM Mme :=
  if h.message.serviceRequest.isSome then .ok (m.fsmTran .exception)
  else match h.message.body with
  | .securityModeComplete => emmSecurityModeComplete h.event.nasType m
  | .securityModeReject => .ok (m.clearT3460.fsmTran .exception)
  | .attachRequest request => emmAttachAgain cfg env request mmeS6aSendAir m
  | .trackingAreaUpdateRequest _ => .ok (m.fsmTran .exception)
  | .emmStatus => .ok (m.fsmTran .exception)
  | .detachRequest detachType => emmDetach env detachType m
  | _ => .ok m

def emmStateSecurityModeTimer (cfg : MmeConfig) (env : MmeEnv) (id : MmeTimerId) (m : Mme) :
    MmeM Mme :=
  match id with
  | .t3460 =>
    if cfg.t3460MaxCount ≤ m.ue.t3460.retryCount then .ok (m.fsmTran .exception)
    else nasSendSecurityModeCommand cfg env.plain
      { m with ue := { m.ue with t3460 := { m.ue.t3460 with
          retryCount := m.ue.t3460.retryCount + 1 } } }
  | _ => .ok m

/-! ## `emm_state_initial_context_setup` -/

def emmStateInitialContextSetup (cfg : MmeConfig) (env : MmeEnv) (h : Handling) (m : Mme) :
    MmeM Mme :=
  match h.message.body with
  | .attachComplete esmMessageContainer => do
    let m ← emmHandleAttachComplete env esmMessageContainer m.clearT3450
    .ok (m.fsmTran .registered)
  | .attachRequest request => emmAttachAgain cfg env request mmeGtpSendDeleteAllSessions m
  | .emmStatus => .ok (m.fsmTran .exception)
  | .detachRequest detachType => emmDetach env detachType m
  | _ => .ok m

def emmStateInitialContextSetupTimer (cfg : MmeConfig) (env : MmeEnv) (id : MmeTimerId)
    (m : Mme) : MmeM Mme :=
  match id with
  | .t3450 =>
    if cfg.t3450MaxCount ≤ m.ue.t3450.retryCount then .ok (m.fsmTran .exception)
    else nasSendAttachAccept env.plain
      { m with ue := { m.ue with t3450 := { m.ue.t3450 with
          retryCount := m.ue.t3450.retryCount + 1 } } }
  | _ => .ok m

/-! ## Dispatch -/

/-- What a state does with a message. -/
def emmStateMessage (cfg : MmeConfig) (env : MmeEnv) (h : Handling) (m : Mme) : MmeM Mme :=
  match m.ue.sm with
  | .deRegistered | .registered => commonRegisterState cfg env h m
  | .authentication => emmStateAuthentication cfg env h m
  | .securityMode => emmStateSecurityMode cfg env h m
  | .initialContextSetup => emmStateInitialContextSetup cfg env h m
  | .exception => .ok m

/-- What a state does with a timer. -/
def emmStateTimer (cfg : MmeConfig) (env : MmeEnv) (id : MmeTimerId) (m : Mme) : MmeM Mme :=
  match m.ue.sm with
  | .deRegistered | .registered => .ok (commonRegisterTimer cfg id m)
  | .authentication => emmStateAuthenticationTimer cfg id m
  | .securityMode => emmStateSecurityModeTimer cfg env id m
  | .initialContextSetup => emmStateInitialContextSetupTimer cfg env id m
  | .exception => .ok m

/-- What a state does when it is entered. -/
def emmStateEntry (cfg : MmeConfig) (env : MmeEnv) (m : Mme) : MmeM Mme :=
  match m.ue.sm with
  | .deRegistered | .exception => .ok m.clearAllTimers
  | .securityMode => nasSendSecurityModeCommand cfg env.plain m.clearT3460
  | _ => .ok m

/-- The end of `ogs_fsm_dispatch`, for the state that was run. -/
def ogsFsmEnter (cfg : MmeConfig) (env : MmeEnv) (source : EmmState) (m : Mme) : MmeM Mme :=
  if m.ue.sm = source then .ok m else emmStateEntry cfg env (m.say (.tran source m.ue.sm))

def ogsFsmDispatchMessage (cfg : MmeConfig) (env : MmeEnv) (h : Handling) (m : Mme) :
    MmeM Mme := do
  let source := m.ue.sm
  let m ← emmStateMessage cfg env h m
  ogsFsmEnter cfg env source m

def ogsFsmDispatchTimer (cfg : MmeConfig) (env : MmeEnv) (id : MmeTimerId) (m : Mme) :
    MmeM Mme := do
  let source := m.ue.sm
  let m ← emmStateTimer cfg env id m
  ogsFsmEnter cfg env source m

end

end NextEpc

import NextEpc.Lib.Trace
import NextEpc.Mme.S1apContext
import NextEpc.S6a.UpdateLocation

/-!
# The ESM state machine

`esm-handler.c` and `esm-sm.c` for one bearer and its session, with `MME_EVT_ESM_MESSAGE` and
`MME_EVT_ESM_TIMER` of `mme-sm.c`. When T3489 expires, an event goes into the queue of the MME,
where it stays if the timer is stopped afterwards.
-/

namespace NextEpc

/-! ## The subscription of the UE -/

section
variable {maxNumOfSess : Nat}

/-- `mme_pdn_find_by_apn`, the index in `pdn` -/
def mmePdnFindByApn (data : SubscriptionData maxNumOfSess) (apn : CString) : Option Nat :=
  data.pdn.findIdx? fun pdn => pdn.apn.toCString == apn

/-- `mme_default_pdn` -/
def mmeDefaultPdn (data : SubscriptionData maxNumOfSess) : Option Nat :=
  data.pdn.findIdx? fun pdn => pdn.contextIdentifier == data.contextIdentifier

end

/-! ## Messages -/

/-- The fields of a PDN Connectivity Request that are read. -/
structure PdnConnectivityRequest where
  requestType : UInt8
  /-- `security_protected_required`, if there is an ESM Information Transfer Flag. -/
  esmInformationTransferFlag : Option Bool
  accessPointName : Option CString
  protocolConfigurationOptions : Option Bytes
  deriving DecidableEq

structure EsmInformationResponse where
  accessPointName : Option CString
  protocolConfigurationOptions : Option Bytes
  deriving DecidableEq

/-- The message that `message_type` selects. -/
inductive EsmMessage
  | pdnConnectivityRequest (request : PdnConnectivityRequest)
  | pdnDisconnectRequest
  | esmInformationResponse (response : EsmInformationResponse)
  | activateDefaultEpsBearerContextAccept
  | activateDedicatedEpsBearerContextAccept
  | modifyEpsBearerContextAccept
  | deactivateEpsBearerContextAccept
  | unknown
  deriving DecidableEq

/-- `ESM_CAUSE_MISSING_OR_UNKNOWN_APN` -/
def esmCauseMissingOrUnknownApn : UInt8 := 27

/-- `ESM_CAUSE_ESM_INFORMATION_NOT_RECEIVED` -/
def esmCauseEsmInformationNotReceived : UInt8 := 53

/-- `max_count` of `MME_TIMER_T3489` -/
def t3489MaxCount : Nat := 2

/-- What is recorded of a run: the messages of the UE and what the MME sends for them. -/
inductive EsmEntry
  | message (message : EsmMessage)
  | esmInformationRequest (esmbuf : Bytes)
  | createSessionRequest (pdn : Nat)
  /-- In an Attach Reject, unless the UE is registered. -/
  | pdnConnectivityReject (registered : Bool) (esmCause : UInt8)
  | modifyBearerRequest
  | activateDedicatedBearers
  | createBearerResponse
  | updateBearerResponse
  | deleteBearerResponse
  | deleteSessionRequest
  | deactivateBearerContextRequest
  | locationUpdateRequest
  | attachAccept
  | deleteSessionOrUeContextRelease
  deriving DecidableEq

/-- `mme_sess_t`, the fields that are read here. -/
structure EsmSess where
  requestType : UInt8
  pdn : Option Nat
  uePco : Option Bytes
  deriving DecidableEq

/-- One bearer, with its session and the subscription of its UE. -/
structure Esm (maxNumOfSess : Nat) where
  subscriptionData : SubscriptionData maxNumOfSess
  sess : EsmSess
  sm : EsmState
  t3489 : MmeTimer Bytes
  /-- T3489 is running. -/
  running : Bool
  /-- The expiries of T3489 that are in the queue. -/
  expiries : Nat
  /-- One of its messages has led to `mme_bearer_remove` or `mme_sess_remove`. -/
  removed : Bool
  log : List EsmEntry

/-- What the surroundings contribute to a step. -/
structure EsmEnv where
  /-- `MME_UE_HAVE_IMSI` -/
  haveImsi : Bool := true
  /-- `SECURITY_CONTEXT_IS_VALID` -/
  securityContextIsValid : Bool := true
  /-- The UE is in `emm_state_registered`. -/
  registered : Bool := false
  /-- `SESSION_CONTEXT_IS_AVAILABLE` -/
  sessionContextIsAvailable : Bool := false
  /-- `mme_csmap_find_by_tai` finds a VLR. -/
  csmap : Bool := false
  /-- `MME_HAVE_ENB_S1U_PATH` -/
  enbS1uPath : Bool := false
  /-- `MME_HAVE_SGW_S1U_PATH` -/
  sgwS1uPath : Bool := false
  /-- The bearer is the default bearer of its session. -/
  isDefault : Bool := true
  /-- What `esm_build_information_request` builds. -/
  esmbuf : Bytes := []

namespace Esm
variable {maxNumOfSess : Nat} (s : Esm maxNumOfSess)

def say (call : EsmEntry) : Esm maxNumOfSess := { s with log := call :: s.log }

/-- `OGS_FSM_TRAN` -/
def fsmTran (target : EsmState) : Esm maxNumOfSess := { s with sm := target }

/-- `CLEAR_BEARER_TIMER(bearer->t3489)` -/
def clearT3489 : Esm maxNumOfSess := { s with t3489 := .clear, running := false }

def setPdn (pdn : Option Nat) : Esm maxNumOfSess := { s with sess := { s.sess with pdn := pdn } }

/-- `OGS_NAS_STORE_DATA(&sess->ue_pco, protocol_configuration_options)`, if there are any. -/
def storePco (pco : Option Bytes) : Esm maxNumOfSess :=
  match pco with
  | some pco => { s with sess := { s.sess with uePco := some pco } }
  | none => s

/-! ## `nas-path.c` -/

/-- `nas_send_esm_information_request` -/
def nasSendEsmInformationRequest (env : EsmEnv) : Esm maxNumOfSess :=
  let esmbuf := s.t3489.pkbuf.getD env.esmbuf
  { s with
    t3489 := { s.t3489 with pkbuf := some esmbuf }
    running := true }.say (.esmInformationRequest esmbuf)

/-- `nas_send_pdn_connectivity_reject` -/
def nasSendPdnConnectivityReject (env : EsmEnv) (esmCause : UInt8) : Esm maxNumOfSess :=
  s.say (.pdnConnectivityReject env.registered esmCause)

/-! ## `esm-handler.c` -/

/-- The session gets a PDN, or the request is rejected. -/
def createSessionOrReject (env : EsmEnv) : Esm maxNumOfSess × Rv :=
  match s.sess.pdn with
  | some pdn => (s.say (.createSessionRequest pdn), .ok)
  | none => (s.nasSendPdnConnectivityReject env esmCauseMissingOrUnknownApn, .error)

/-- The PDN of the Access Point Name, if there is one in the message. -/
def findPdn (apn : Option CString) : Esm maxNumOfSess :=
  match apn with
  | some apn => s.setPdn (mmePdnFindByApn s.subscriptionData apn)
  | none => s

/-- The end of `esm_handle_pdn_connectivity_request`. -/
def connectPdn (env : EsmEnv) (securityProtectedRequired : Bool) : Esm maxNumOfSess × Rv :=
  if securityProtectedRequired then (s.clearT3489.nasSendEsmInformationRequest env, .ok)
  else if s.sess.pdn.isNone then
    (s.setPdn (mmeDefaultPdn s.subscriptionData)).createSessionOrReject env
  else s.createSessionOrReject env

/-- `esm_handle_pdn_connectivity_request` -/
def esmHandlePdnConnectivityRequest (env : EsmEnv) (request : PdnConnectivityRequest) :
    MmeM (Esm maxNumOfSess × Rv) := do
  Fallible.assert .esmHandler (env.haveImsi = true)
  Fallible.assert .esmHandler (env.securityContextIsValid = true)
  let s := ({ s with sess := { s.sess with requestType := request.requestType } }).findPdn
    request.accessPointName
  if request.accessPointName.isSome && s.sess.pdn.isNone then
    .ok (s.nasSendPdnConnectivityReject env esmCauseMissingOrUnknownApn, .error)
  else
    .ok ((s.storePco request.protocolConfigurationOptions).connectPdn env
      (request.esmInformationTransferFlag.getD false))

/-- `esm_handle_information_response` -/
def esmHandleInformationResponse (env : EsmEnv) (response : EsmInformationResponse) :
    Esm maxNumOfSess × Rv :=
  let s := (s.findPdn response.accessPointName).storePco response.protocolConfigurationOptions
  if s.sess.pdn.isSome && env.sessionContextIsAvailable then
    (s.say (if env.csmap then .locationUpdateRequest else .attachAccept), .ok)
  else s.createSessionOrReject env

/-! ## `esm-sm.c` -/

/-- What follows a handler that can fail. -/
def unlessError (next : Esm maxNumOfSess → Esm maxNumOfSess) (r : Esm maxNumOfSess × Rv) :
    Esm maxNumOfSess :=
  if r.2 = .ok then next r.1 else r.1.fsmTran .exception

/-- A call that is made if there is a path. -/
def sayIf (path : Bool) (call : EsmEntry) : Esm maxNumOfSess := if path then s.say call else s

def esmStateInactive (env : EsmEnv) (message : EsmMessage) : MmeM (Esm maxNumOfSess) :=
  match message with
  | .pdnConnectivityRequest request => do
    let r ← s.esmHandlePdnConnectivityRequest env request
    .ok (unlessError id r)
  | .esmInformationResponse response =>
    .ok (unlessError id (s.clearT3489.esmHandleInformationResponse env response))
  | .activateDefaultEpsBearerContextAccept =>
    .ok (((s.sayIf env.enbS1uPath .modifyBearerRequest).say .activateDedicatedBearers).fsmTran
      .active)
  | .activateDedicatedEpsBearerContextAccept =>
    .ok ((s.sayIf env.enbS1uPath .createBearerResponse).fsmTran .active)
  | _ => .ok s

def esmStateInactiveTimer (env : EsmEnv) : Esm maxNumOfSess :=
  if t3489MaxCount ≤ s.t3489.retryCount then
    (s.fsmTran .exception).nasSendPdnConnectivityReject env esmCauseEsmInformationNotReceived
  else
    ({ s with t3489 := { s.t3489 with
        retryCount := s.t3489.retryCount + 1 } }).nasSendEsmInformationRequest env

def esmStateActive (env : EsmEnv) (message : EsmMessage) : MmeM (Esm maxNumOfSess) :=
  match message with
  | .pdnConnectivityRequest request => do
    let r ← s.esmHandlePdnConnectivityRequest env request
    .ok (unlessError (fun s => s.fsmTran .inactive) r)
  | .pdnDisconnectRequest =>
    .ok ((s.say (if env.sgwS1uPath then .deleteSessionRequest
      else .deactivateBearerContextRequest)).fsmTran .pdnWillDisconnect)
  | .modifyEpsBearerContextAccept => .ok (s.say .updateBearerResponse)
  | .deactivateEpsBearerContextAccept =>
    .ok ((s.say .deleteBearerResponse).fsmTran .bearerDeactivated)
  | _ => .ok s

def esmStatePdnWillDisconnect (message : EsmMessage) : Esm maxNumOfSess :=
  match message with
  | .deactivateEpsBearerContextAccept => s.fsmTran .pdnDidDisconnect
  | _ => s

/-- What a state does with a message. -/
def esmStateMessage (env : EsmEnv) (message : EsmMessage) : MmeM (Esm maxNumOfSess) :=
  match s.sm with
  | .inactive => s.esmStateInactive env message
  | .active => s.esmStateActive env message
  | .pdnWillDisconnect => .ok (s.esmStatePdnWillDisconnect message)
  | .pdnDidDisconnect | .bearerDeactivated | .exception => .ok s

/-- What a state does with T3489: only one of them expects it. -/
def esmStateTimer (env : EsmEnv) : Esm maxNumOfSess :=
  match s.sm with
  | .inactive => s.esmStateInactiveTimer env
  | _ => s

/-- What a state does when it is entered. -/
def esmStateEntry : Esm maxNumOfSess :=
  match s.sm with
  | .inactive | .exception => s.clearT3489
  | _ => s

/-- The end of `ogs_fsm_dispatch`, for the state that was run. -/
def ogsFsmEnter (source : EsmState) : Esm maxNumOfSess :=
  if s.sm = source then s else s.esmStateEntry

/-! ## `mme-sm.c` -/

/-- What is done behind `ogs_fsm_dispatch` of a message. -/
def afterMessage (env : EsmEnv) : MmeM (Esm maxNumOfSess) :=
  match s.sm with
  | .bearerDeactivated => .ok { s with removed := true }
  | .pdnDidDisconnect => do
    Fallible.assert .mmeSm (env.isDefault = true)
    .ok { s with removed := true }
  | .exception => .ok (s.say .deleteSessionOrUeContextRelease)
  | _ => .ok s

/-- `MME_EVT_ESM_MESSAGE` -/
def mmeEsmMessage (env : EsmEnv) (message : EsmMessage) : MmeM (Esm maxNumOfSess) := do
  let t ← (s.say (.message message)).esmStateMessage env message
  (t.ogsFsmEnter s.sm).afterMessage env

/-- `MME_EVT_ESM_TIMER` -/
def mmeEsmTimer (env : EsmEnv) : Esm maxNumOfSess := (s.esmStateTimer env).ogsFsmEnter s.sm

/-! ## Runs -/

/-- What happens to a bearer. Its session and the subscription also change through the other
bearers of the session, and through the answers of the HSS and the SGW. -/
inductive Label (maxNumOfSess : Nat)
  | message (env : EsmEnv) (message : EsmMessage)
  | expire (pushed : Bool)
  | timer (env : EsmEnv)
  | others (subscriptionData : SubscriptionData maxNumOfSess) (sess : EsmSess)

/-- `mme_timer_t3489_expire`; there may be no room in the queue. -/
def expire (pushed : Bool) : Esm maxNumOfSess :=
  { s with running := false, expiries := s.expiries + if pushed then 1 else 0 }

/-- The expiry that is handled leaves the queue. -/
def dequeue : Esm maxNumOfSess := { s with expiries := s.expiries - 1 }

/-- A step of the bearer. Messages may be handled while an expiry is queued, which `mme_main` never
does: it empties the queue before the timers are looked at and right after, and only handlers of the
messages it takes out push those of the UE. -/
inductive Step : Esm maxNumOfSess → Label maxNumOfSess → Esm maxNumOfSess → Prop
  | message {s t : Esm maxNumOfSess} {env : EsmEnv} {message : EsmMessage}
      (hremoved : s.removed = false) (hmessage : s.mmeEsmMessage env message = .ok t) :
      Step s (.message env message) t
  | expire {s : Esm maxNumOfSess} {pushed : Bool} (hremoved : s.removed = false)
      (hrunning : s.running = true) : Step s (.expire pushed) (s.expire pushed)
  | timer {s : Esm maxNumOfSess} {env : EsmEnv} (hremoved : s.removed = false)
      (hexpiries : 0 < s.expiries) :
      Step s (.timer env) (s.dequeue.mmeEsmTimer env)
  | others {s : Esm maxNumOfSess} {subscriptionData : SubscriptionData maxNumOfSess}
      {sess : EsmSess} (hremoved : s.removed = false) : Step s (.others subscriptionData sess)
        { s with subscriptionData := subscriptionData, sess := sess }

/-- A bearer that `mme_bearer_add` has just added. -/
structure Initial (s : Esm maxNumOfSess) : Prop where
  sm : s.sm = .inactive
  t3489 : s.t3489 = .clear
  running : s.running = false
  expiries : s.expiries = 0
  removed : s.removed = false
  log : s.log = []

end Esm
end NextEpc

import NextEpc.Mme.NasSecurity

/-!
# The EMM context of one UE

What the MME keeps for one UE: its context, the S1 connections that point to it, the
requests to the HSS that are not answered and the NAS messages in the event queue. The
functions of `nas-path.c`, `emm-build.c` and `mme-path.c` act on it.

`log` lists what has happened, the latest first, each item with the EMM message that was
being handled. No function reads it; the properties of runs are stated about it.
-/

namespace NextEpc

/-! ## Messages -/

structure AttachRequest where
  epsAttachType : UInt8
  eea : UInt8
  eia : UInt8
  /-- The length of an identity of type IMSI. -/
  imsiLen : Option Nat
  esmMessageContainer : Bytes
  deriving DecidableEq, Repr

structure TrackingAreaUpdateRequest where
  epsUpdateType : UInt8
  /-- The optional UE network capability: its `eea` and `eia`. -/
  ueNetworkCapability : Option (UInt8 × UInt8)
  deriving DecidableEq, Repr

/-- The message that `message_type` selects, with the fields that are read. -/
inductive EmmBody
  | attachRequest (request : AttachRequest)
  | attachComplete (esmMessageContainer : Bytes)
  | detachRequest (detachType : UInt8)
  | trackingAreaUpdateRequest (request : TrackingAreaUpdateRequest)
  | trackingAreaUpdateComplete
  | extendedServiceRequest (serviceType : UInt8)
  | identityResponse (imsiLen : Option Nat)
  | authenticationResponse (res : Bytes)
  | authenticationFailure (emmCause : UInt8)
  | securityModeComplete
  | securityModeReject
  | emmStatus
  | uplinkNasTransport
  | unknown
  deriving DecidableEq, Repr

/-- `ogs_nas_message_t`. A Service Request has no message type of its own: where the states
do not look at the security header type, its second octet is taken for one. -/
structure EmmMessage where
  /-- The key set identifier, if the security header type is that of a Service Request. -/
  serviceRequest : Option UInt8
  body : EmmBody
  deriving DecidableEq, Repr

/-- `ogs_nas_emm_decode`, which is generated code. -/
class NasDecoder where
  emmDecode : Bytes → Option EmmMessage

/-- `ogs_diam_e_utran_vector_t` -/
structure EUtranVector where
  xres : Bytes
  kasme : Octets32
  rand : Octets16
  autn : Octets16
  deriving DecidableEq, Repr

inductive S1apProcedureCode
  | initialUeMessage
  | uplinkNasTransport
  | downlinkNasTransport
  | initialContextSetup
  | other
  deriving DecidableEq, Repr

inductive MmeTimerId
  | t3413
  | t3450
  | t3460
  | t3470
  deriving DecidableEq, Repr

/-! ## Events -/

/-- The PDU that a message came in and what `nas_security_decode` did with it. -/
structure NasOrigin where
  pdu : Bytes
  /-- The context before and after `nas_security_decode`, if it was called. -/
  decoded : Option (MmeUe × MmeUe)
  deriving DecidableEq

/-- `MME_EVT_EMM_MESSAGE` -/
structure NasEvent where
  enbUe : EnbUeId
  s1apCode : S1apProcedureCode
  nasType : NasSecurityHeaderType
  pkbuf : Pkbuf
  origin : NasOrigin
  deriving DecidableEq

/-- Events with a NAS message. An ESM message that was contained in an EMM message has no
PDU of its own. -/
inductive MmeEvent
  | emm (e : NasEvent)
  | esm (origin : Option NasOrigin)
  deriving DecidableEq

/-- An EMM message that is handed to the state machine, with the context at that time and
the memory behind `knas_enc`. -/
structure Handling where
  event : NasEvent
  message : EmmMessage
  ue : MmeUe
  tail : Bytes
  deriving DecidableEq

/-- What is recorded of a run. -/
inductive MmeCall
  | emmMessage
  | esmMessage (origin : Option NasOrigin)
  | nasSecurityDecode (ue : MmeUe) (pdu : Bytes)
  | air (id : Nat)
  | aia (id : Nat) (vector : EUtranVector)
  | authenticationRequest (rand autn : Octets16)
  | securityModeCommand (kasme : Octets32) (knasInt : Octets16)
  | kdfEnb (kasme : Octets32) (ulCount : UInt32)
  | kdfNh
  | attachAccept (sm : EmmState)
  | initialContextSetupRequest (kasme kenb : Octets32)
  | ueContextModificationRequest
  | emmToEsm
  | tauAccept
  | tran (source target : EmmState)
  deriving DecidableEq

structure MmeLogItem where
  cause : Option Handling
  call : MmeCall
  deriving DecidableEq

abbrev MmeLog := List MmeLogItem

/-- `enb_ue->mme_ue` as seen from one UE. -/
inductive EnbUeOwner
  | none
  | this
  | other
  deriving DecidableEq, Repr

/-- The context of one UE in the MME, with what belongs to it elsewhere. -/
structure Mme where
  ue : MmeUe
  enbUes : EnbUeId → EnbUeOwner
  /-- The number of Authentication-Information-Requests that have been sent. -/
  airs : Nat
  /-- Those of them without an answer. -/
  pendingAirs : List Nat
  queue : List MmeEvent
  handling : Option Handling
  log : MmeLog

/-- What the surroundings of a context contribute to a step. -/
structure MmeEnv where
  /-- `mme_find_served_tai` finds the tracking area. -/
  servedTai : Bool := true
  /-- `MME_P_TMSI_IS_AVAILABLE` -/
  pTmsi : Bool := false
  /-- `mme_ue_find_by_message` finds this context. -/
  found : Bool := false
  /-- There is room in the event queue. -/
  pushed : Bool := true
  /-- The memory behind `knas_enc`. -/
  tail : Bytes := []
  /-- The plain encoding of the message that is sent. -/
  plain : Bytes := []

namespace Mme

def say (m : Mme) (call : MmeCall) : Mme := { m with log := ⟨m.handling, call⟩ :: m.log }

/-- `OGS_FSM_TRAN` -/
def fsmTran (m : Mme) (target : EmmState) : Mme := { m with ue := { m.ue with sm := target } }

/-- `CLEAR_MME_UE_ALL_TIMERS` -/
def clearAllTimers (m : Mme) : Mme := { m with ue := m.ue.clearAllTimers }

/-- `CLEAR_MME_UE_TIMER(mme_ue->t3450)` -/
def clearT3450 (m : Mme) : Mme := { m with ue := { m.ue with t3450 := .clear } }

/-- `CLEAR_MME_UE_TIMER(mme_ue->t3460)` -/
def clearT3460 (m : Mme) : Mme := { m with ue := { m.ue with t3460 := .clear } }

/-- `CLEAR_MME_UE_TIMER(mme_ue->t3470)` -/
def clearT3470 (m : Mme) : Mme := { m with ue := { m.ue with t3470 := .clear } }

end Mme

section
variable [OgsCrypt]

/-! ## Requests to the HSS and key derivation -/

omit [OgsCrypt] in
def mmeS6aSendAir (m : Mme) : Mme :=
  { m with
    ue := m.ue.clearSecurityContext
    airs := m.airs + 1
    pendingAirs := m.pendingAirs ++ [m.airs] }.say (.air m.airs)

/-- `mme_kdf_enb` and `mme_kdf_nh` after it, with `nhcc = 1`. -/
def Mme.kdfEnb (m : Mme) : Mme :=
  let kenb := mmeKdfEnb m.ue.kasme m.ue.ulCount.i32
  { m with
    ue := { m.ue with kenb := kenb, nh := mmeKdfNh m.ue.kasme kenb, nhcc := 1 } }.say
      (.kdfEnb m.ue.kasme m.ue.ulCount.i32)

/-- `nhcc++` and `mme_kdf_nh`; `nhcc` has three bits. -/
def Mme.kdfNh (m : Mme) : Mme :=
  { m with
    ue := { m.ue with nhcc := (m.ue.nhcc + 1) % 8, nh := mmeKdfNh m.ue.kasme m.ue.nh } }.say
      .kdfNh

/-! ## `emm-build.c` -/

/-- `nas_security_encode` of a message, whose result is asserted to be there. -/
def emmBuild (securityHeaderType : UInt8) (plain : Bytes) (m : Mme) : MmeM (Mme × Pkbuf) := do
  let (ue, pkbuf, rv) ← nasSecurityEncode m.ue ⟨securityHeaderType, 0x07, plain⟩
  Fallible.assert .emmBuild (rv = .ok)
  let pkbuf ← Fallible.assertSome .emmBuild pkbuf
  .ok ({ m with ue := ue }, pkbuf)

/-- The messages with header type "integrity protected and ciphered": Attach Accept, Detach
Accept, Tracking Area Update Accept, EMM Information and the ESM messages. -/
def emmBuildCiphered (plain : Bytes) (m : Mme) : MmeM Mme := do
  let (m, _) ← emmBuild NasSecurityHeader.integrityProtectedAndCiphered plain m
  .ok m

/-- The keys of a Security Mode Command. -/
def MmeUe.selectAlgorithms (cfg : MmeConfig) (ue : MmeUe) : MmeUe :=
  let selectedIntAlgorithm := mmeSelectedIntAlgorithm cfg ue
  let selectedEncAlgorithm := mmeSelectedEncAlgorithm cfg ue
  { ue with
    selectedIntAlgorithm := selectedIntAlgorithm
    selectedEncAlgorithm := selectedEncAlgorithm
    knasInt := mmeKdfNas mmeKdfNasIntAlg selectedIntAlgorithm ue.kasme
    knasEnc := mmeKdfNas mmeKdfNasEncAlg selectedEncAlgorithm ue.kasme }

def emmBuildSecurityModeCommand (cfg : MmeConfig) (plain : Bytes) (m : Mme) :
    MmeM (Mme × Pkbuf) := do
  Fallible.assert .emmBuild (mmeSelectedIntAlgorithm cfg m.ue ≠ 0)
  let ue := m.ue.selectAlgorithms cfg
  emmBuild NasSecurityHeader.integrityProtectedAndNewSecurityContext plain
    ({ m with ue := ue }.say (.securityModeCommand ue.kasme ue.knasInt))

/-! ## `nas-path.c` -/

omit [OgsCrypt] in
/-- A message under T3460 goes to the eNB if there is a connection. -/
def nasSendToDownlinkNasTransport (pkbuf : T3460Message) (m : Mme) : Mme :=
  match pkbuf with
  | .authenticationRequest rand autn =>
    if m.ue.enbUe.isSome then m.say (.authenticationRequest rand autn) else m
  | .securityModeCommand _ => m

omit [OgsCrypt] in
/-- The message is kept for T3460 and sent. -/
def nasSendT3460 (pkbuf : T3460Message) (m : Mme) : Mme :=
  nasSendToDownlinkNasTransport pkbuf
    { m with ue := { m.ue with t3460 := { m.ue.t3460 with pkbuf := some pkbuf } } }

omit [OgsCrypt] in
def nasSendAuthenticationRequest (vector : Option EUtranVector) (m : Mme) : MmeM Mme :=
  match m.ue.t3460.pkbuf with
  | some pkbuf => .ok (nasSendT3460 pkbuf m)
  | none => do
    let vector ← Fallible.assertSome .nasPath vector
    .ok (nasSendT3460 (.authenticationRequest vector.rand vector.autn) m)

def nasSendSecurityModeCommand (cfg : MmeConfig) (plain : Bytes) (m : Mme) : MmeM Mme :=
  match m.ue.t3460.pkbuf with
  | some pkbuf => .ok (nasSendT3460 pkbuf m)
  | none => do
    let (m, pkbuf) ← emmBuildSecurityModeCommand cfg plain m
    .ok (nasSendT3460 (.securityModeCommand pkbuf.data) m)

omit [OgsCrypt] in
def nasSendIdentityRequest (m : Mme) : Mme :=
  { m with ue := { m.ue with t3470 := { m.ue.t3470 with pkbuf := some () } } }

omit [OgsCrypt] in
/-- The ESM message is put into the event queue. -/
def nasSendEmmToEsm (env : MmeEnv) (esmMessageContainer : Bytes) (m : Mme) : MmeM Mme := do
  Fallible.assert .nasPath (esmMessageContainer ≠ [])
  let queue := if env.pushed then m.queue ++ [.esm none] else m.queue
  .ok ({ m with queue := queue }.say .emmToEsm)

omit [OgsCrypt] in
/-- An Initial Context Setup Request with the given `KeNB`. -/
def s1apSendInitialContextSetup (kenb : Octets32) (m : Mme) : MmeM Mme := do
  Fallible.assert .nasPath (m.ue.enbUe.isSome = true)
  .ok (m.say (.initialContextSetupRequest m.ue.kasme kenb))

omit [OgsCrypt] in
def s1apSendInitialContextSetupRequest (m : Mme) : MmeM Mme :=
  s1apSendInitialContextSetup m.ue.kenb m

omit [OgsCrypt] in
def s1apSendUeContextModificationRequest (m : Mme) : MmeM Mme := do
  Fallible.assert .nasPath (m.ue.enbUe.isSome = true)
  .ok (m.say .ueContextModificationRequest)

/-- The Initial Context Setup Request of an Attach Accept: the one kept for T3450 or a new
one. -/
def nasAttachAcceptPkbuf (plain : Bytes) (m : Mme) : MmeM (Mme × Octets32) :=
  match m.ue.t3450.pkbuf with
  | some s1apbuf => .ok (m, s1apbuf)
  | none => do
    let m ← emmBuildCiphered plain m
    .ok (m, m.ue.kenb)

def nasSendAttachAccept (plain : Bytes) (m : Mme) : MmeM Mme := do
  let (m, s1apbuf) ← nasAttachAcceptPkbuf plain (m.say (.attachAccept m.ue.sm))
  s1apSendInitialContextSetup s1apbuf
    { m with ue := { m.ue with t3450 := { m.ue.t3450 with pkbuf := some s1apbuf } } }

def nasSendTauAccept (procedureCode : S1apProcedureCode) (plain : Bytes) (m : Mme) :
    MmeM Mme := do
  let m ← emmBuildCiphered plain (m.say .tauAccept)
  match procedureCode with
  | .initialContextSetup => s1apSendInitialContextSetupRequest m
  | .downlinkNasTransport => .ok m
  | _ => .error (.assert .nasPath)

/-- The release of the S1 connection that follows is not part of the context. -/
def nasSendDetachAccept (plain : Bytes) (m : Mme) : MmeM Mme := do
  Fallible.assert .nasPath (m.ue.enbUe.isSome = true)
  if m.ue.nasEps.switchOff then .ok m else emmBuildCiphered plain m

/-! ## `mme-path.c` -/

omit [OgsCrypt] in
def mmeGtpSendDeleteAllSessions (m : Mme) : Mme :=
  { m with ue := { m.ue with sessionContextWillDeleted := true } }

def mmeSendDeleteSessionOrDetach (plain : Bytes) (m : Mme) : MmeM Mme :=
  if m.ue.SessionContextIsAvailable then .ok (mmeGtpSendDeleteAllSessions m)
  else nasSendDetachAccept plain m

omit [OgsCrypt] in
/-- Without sessions a UE Context Release Command is sent. -/
def mmeSendDeleteSessionOrUeContextRelease (m : Mme) : Mme :=
  if m.ue.SessionContextIsAvailable then mmeGtpSendDeleteAllSessions m else m

end

end NextEpc

import NextEpc.Mme.ContextRelease
import NextEpc.Mme.Emm
import NextEpc.Mme.Records

/-!
# The contexts that S1AP messages are about

S1 connections (`enb_ue_t`) and UEs (`mme_ue_t`) with the fields that the handlers of S1AP
messages use. The sessions and bearers of a UE are in its record.
-/

namespace NextEpc

/-! ## Information elements -/

/-- `S1AP_TAI_t` -/
structure S1apTai where
  pLMNidentity : Bytes
  tAC : Bytes

/-- `S1AP_EUTRAN_CGI_t` -/
structure S1apEutranCgi where
  pLMNidentity : Bytes
  cellId : Bytes

inductive S1apCauseGroup
  | nothing
  | radioNetwork
  | transport
  | nas
  | protocol
  | misc
  deriving DecidableEq, Repr

/-- `S1AP_Cause_t` -/
structure S1apCause where
  group : S1apCauseGroup
  value : Nat
  deriving DecidableEq, Repr

/-- `S1AP_S_TMSI_t` -/
structure S1apSTmsi where
  mMEC : UInt8
  mTMSI : UInt32
  deriving DecidableEq, Repr

/-! ## Records -/

/-- `enb_ue_t` -/
structure S1EnbUe where
  enbUeS1apId : UInt32
  mmeUeS1apId : UInt32
  handoverType : Nat
  sourceUe : Option EnbUeId
  targetUe : Option EnbUeId
  ueCtxRelAction : UeCtxRelAction
  saved : UserLocation
  /-- The UE Context Release Command with its cause -/
  tUeContextRelease : MmeTimer S1apCause
  enb : MmeEnbId
  mmeUe : Option MmeUeId

/-- A tunnel end point: the TEID and the octets of the address. -/
structure GtpEndPoint where
  teid : UInt32
  ip : Bytes
  deriving DecidableEq, Repr

inductive EsmState
  | inactive
  | active
  | pdnWillDisconnect
  | pdnDidDisconnect
  | bearerDeactivated
  | exception
  deriving DecidableEq, Repr

/-- `mme_bearer_t` -/
structure S1Bearer where
  ebi : UInt8
  sm : EsmState
  enbS1u : GtpEndPoint
  sgwS1u : GtpEndPoint
  targetS1u : GtpEndPoint
  enbDl : GtpEndPoint
  enbUl : GtpEndPoint
  sgwDl : GtpEndPoint
  sgwUl : GtpEndPoint
  xact : Option Nat
  deriving DecidableEq, Repr

/-- `mme_sess_t` -/
structure S1Sess where
  bearerList : List S1Bearer
  deriving DecidableEq, Repr

/-- `mme_ue_t` -/
structure S1MmeUe extends MmeUe where
  location : UserLocation
  sessList : List S1Sess
  serviceIndicator : UInt8
  /-- `MME_P_TMSI_IS_AVAILABLE` -/
  pTmsiIsAvailable : Bool
  ueRadioCapability : Option Bytes
  container : Option Bytes
  pathSwitchCounter : GtpCounter
  handoverNotifyCounter : GtpCounter
  deriving DecidableEq

namespace S1MmeUe

/-- `mme_bearer_find_by_ue_ebi`, with the session of the bearer -/
def bearerFindByUeEbi (ue : S1MmeUe) (ebi : UInt8) : Option (S1Sess × S1Bearer) :=
  ue.sessList.findSome? fun sess =>
    (sess.bearerList.find? fun bearer => bearer.ebi = ebi).map fun bearer => (sess, bearer)

/-- A write to the first element of a list that has a property. -/
def updateFirst {α : Type} (p : α → Bool) (f : α → α) : List α → List α
  | [] => []
  | a :: l => if p a then f a :: l else a :: updateFirst p f l

/-- A write to the bearer that is found. -/
def updateBearer (ue : S1MmeUe) (ebi : UInt8) (f : S1Bearer → S1Bearer) : S1MmeUe :=
  { ue with
    sessList := updateFirst (fun sess => sess.bearerList.any fun bearer => bearer.ebi = ebi)
      (fun sess => { sess with
        bearerList := updateFirst (fun bearer => bearer.ebi = ebi) f sess.bearerList })
      ue.sessList }

/-- A write to all bearers. -/
def updateBearers (ue : S1MmeUe) (f : S1Bearer → S1Bearer) : S1MmeUe :=
  { ue with
    sessList := ue.sessList.map fun sess => { sess with bearerList := sess.bearerList.map f } }

def bearers (ue : S1MmeUe) : List S1Bearer := ue.sessList.flatMap S1Sess.bearerList

/-- `mme_ue_have_indirect_tunnel` -/
def haveIndirectTunnel (ue : S1MmeUe) : Bool :=
  ue.bearers.any fun bearer => bearer.enbDl.teid ≠ 0 ∨ bearer.enbUl.teid ≠ 0 ∨
    bearer.sgwDl.teid ≠ 0 ∨ bearer.sgwUl.teid ≠ 0

/-- `mme_ue_clear_indirect_tunnel` -/
def clearIndirectTunnel (ue : S1MmeUe) : S1MmeUe :=
  ue.updateBearers fun bearer =>
    { bearer with
      enbDl := { bearer.enbDl with teid := 0 }
      enbUl := { bearer.enbUl with teid := 0 }
      sgwDl := { bearer.sgwDl with teid := 0 }
      sgwUl := { bearer.sgwUl with teid := 0 } }

/-- `BEARER_CONTEXT_IS_ACTIVE`: `mme_bearer_is_inactive` finds a path to the eNB. -/
def bearerContextIsActive (ue : S1MmeUe) : Bool :=
  ue.bearers.any fun bearer => bearer.enbS1u.teid ≠ 0

/-- `CLEAR_SERVICE_INDICATOR` -/
def clearServiceIndicator (ue : S1MmeUe) : S1MmeUe := { ue with serviceIndicator := 0 }

/-- `SMS_SERVICE_INDICATOR` -/
def smsServiceIndicator (ue : S1MmeUe) : Bool := ue.pTmsiIsAvailable && ue.serviceIndicator == 2

/-- `mme_kdf_nh` with the next hop counter. -/
def nextNh [OgsCrypt] (ue : S1MmeUe) : S1MmeUe :=
  { ue with nhcc := ue.nhcc + 1, nh := mmeKdfNh ue.kasme ue.nh }

end S1MmeUe

/-! ## Messages that are sent -/

/-- S1AP messages to an eNB -/
inductive S1apPdu
  | setupResponse
  | setupFailure (cause : S1apCause)
  | errorIndication (mmeUeS1apId enbUeS1apId : Option UInt32) (cause : S1apCause)
  | ueContextReleaseCommand (cause : S1apCause)
  | pathSwitchFailure (enbUeS1apId mmeUeS1apId : UInt32) (cause : S1apCause)
  | pathSwitchRequestAcknowledge
  | mmeConfigurationTransfer
  | handoverRequest
  | handoverCommand
  | handoverPreparationFailure (cause : S1apCause)
  | handoverCancelAck
  | mmeStatusTransfer
  | resetAck
  deriving DecidableEq, Repr

/-- S11 messages to the SGW, with the identity of the bearer -/
inductive S11Request
  | modifyBearerRequest (ebi : UInt8) (uliPresence : Bool)
  | createBearerResponse (ebi : UInt8)
  | deleteSessionRequest (ebi : UInt8)
  | releaseAccessBearersRequest
  | createIndirectDataForwardingTunnelRequest
  | deleteIndirectDataForwardingTunnelRequest
  deriving DecidableEq, Repr

inductive S1Sent
  | toEnb (enb : MmeEnbId) (pdu : S1apPdu)
  | toEnbUe (enbUe : EnbUeId) (pdu : S1apPdu)
  /-- `s1ap_delayed_send_to_enb_ue`, with a duration -/
  | delayed (enbUe : EnbUeId) (pdu : S1apPdu)
  | toSgw (mmeUe : MmeUeId) (request : S11Request)
  /-- `sgsap_send_service_request` -/
  | toVlr (mmeUe : MmeUeId)
  deriving DecidableEq, Repr

/-- Events for NAS messages -/
inductive S1NasEvent
  | emmMessage (enbUe : EnbUeId) (s1apCode : S1apProcedureCode) (nasType : NasSecurityHeaderType)
      (pkbuf : Pkbuf)
  | esmMessage (mmeUe : MmeUeId) (pkbuf : Pkbuf)
  deriving DecidableEq

/-! ## The state -/

structure S1Mme where
  enbUes : Pool S1EnbUe
  mmeUes : Pool S1MmeUe
  enbUeList : MmeEnbId → List EnbUeId
  enbIds : MmeEnbId → UInt32
  supportedTaList : MmeEnbId → List OgsTai
  mmeUeS1apId : UInt32
  mmeUeS1apIdHash : UInt32 → Option EnbUeId
  enbIdHash : UInt32 → Option MmeEnbId
  /-- `guti_ue_hash`, for the first served PLMN and MME group -/
  gutiUeHash : S1apSTmsi → Option MmeUeId
  queue : List S1NasEvent
  sent : List S1Sent

namespace S1Mme
variable (s : S1Mme)

def send (sent : S1Sent) : S1Mme := { s with sent := s.sent ++ [sent] }

def modifyEnbUe (enbUe : EnbUeId) (f : S1EnbUe → S1EnbUe) : S1Mme :=
  { s with enbUes := s.enbUes.modify enbUe f }

def modifyMmeUe (mmeUe : MmeUeId) (f : S1MmeUe → S1MmeUe) : S1Mme :=
  { s with mmeUes := s.mmeUes.modify mmeUe f }

/-! ## Connections -/

/-- `OGS_NEXT_ID(self.mme_ue_s1ap_id, 1, 0xffffffff)` -/
def nextMmeUeS1apId [Ogslib] : UInt32 :=
  Ogslib.nextId s.mmeUeS1apId 1 0xffffffff

/-- `ogs_pool_alloc` gives a slot that is free, if there is one. -/
def enbUePoolAlloc (slot : Option EnbUeId) : Option EnbUeId :=
  slot.filter fun enbUe => s.enbUes.live enbUe = false

def enbUeAdd [Ogslib] (enbUe : EnbUeId) (enb : MmeEnbId) : S1Mme :=
  { s with
    enbUes := (s.enbUes.alloc enbUe).modify enbUe fun e =>
      { e with enbUeS1apId := invalidUeS1apId, mmeUeS1apId := s.nextMmeUeS1apId, enb := enb }
    mmeUeS1apId := s.nextMmeUeS1apId
    mmeUeS1apIdHash := Function.update s.mmeUeS1apIdHash s.nextMmeUeS1apId (some enbUe)
    enbUeList := Function.update s.enbUeList enb (s.enbUeList enb ++ [enbUe]) }

def enbUeRemove (enbUe : EnbUeId) : S1Mme :=
  let enb := (s.enbUes.mem enbUe).enb
  { s with
    enbUes := (s.enbUes.modify enbUe fun e =>
      { e with tUeContextRelease := .clear, mmeUe := none }).free enbUe
    enbUeList := Function.update s.enbUeList enb ((s.enbUeList enb).erase enbUe)
    mmeUeS1apIdHash :=
      Function.update s.mmeUeS1apIdHash (s.enbUes.mem enbUe).mmeUeS1apId none }

def enbUeRemoveInEnb (enb : MmeEnbId) : S1Mme := (s.enbUeList enb).foldl enbUeRemove s

def enbUeSwitchToEnb (enbUe : EnbUeId) (newEnb : MmeEnbId) : S1Mme :=
  let enb := (s.enbUes.mem enbUe).enb
  let list := Function.update s.enbUeList enb ((s.enbUeList enb).erase enbUe)
  { s with
    enbUeList := Function.update list newEnb (list newEnb ++ [enbUe])
    enbUes := s.enbUes.modify enbUe fun e => { e with enb := newEnb } }

def enbUeFindByEnbUeS1apId (enb : MmeEnbId) (enbUeS1apId : UInt32) : Option EnbUeId :=
  (s.enbUeList enb).find? fun enbUe => (s.enbUes.mem enbUe).enbUeS1apId = enbUeS1apId

def enbUeFindByMmeUeS1apId (mmeUeS1apId : UInt32) : Option EnbUeId :=
  s.mmeUeS1apIdHash mmeUeS1apId

/-! ## UEs -/

def mmeUeAssociateEnbUe (mmeUe : MmeUeId) (enbUe : EnbUeId) : S1Mme :=
  (s.modifyMmeUe mmeUe fun ue => { ue with enbUe := some enbUe }).modifyEnbUe enbUe fun e =>
    { e with mmeUe := some mmeUe }

def mmeUeDeassociate (mmeUe : MmeUeId) : S1Mme :=
  s.modifyMmeUe mmeUe fun ue => { ue with enbUe := none }

def mmeUeRemove (mmeUe : MmeUeId) : S1Mme :=
  { s with
    mmeUes := (s.mmeUes.modify mmeUe fun ue =>
      { ue with
        toMmeUe := { ue.clearAllTimers with pdnConnectivityRequest := [], enbUe := none }
        serviceIndicator := 0
        ueRadioCapability := none
        container := none
        sessList := [] }).free mmeUe }

/-! ## Handover -/

def sourceUeAssociateTargetUe (sourceUe targetUe : EnbUeId) : MmeM S1Mme := do
  let mmeUe ← Fallible.assertSome .mmeContext (s.enbUes.mem sourceUe).mmeUe
  let s := s.modifyEnbUe targetUe fun e => { e with mmeUe := some mmeUe, sourceUe := some sourceUe }
  .ok (s.modifyEnbUe sourceUe fun e => { e with targetUe := some targetUe })

/-- The end of `source_ue_deassociate_target_ue`. -/
def clearHandover (sourceUe targetUe : EnbUeId) : MmeM S1Mme := do
  Fallible.assert .mmeContext ((s.enbUes.mem sourceUe).targetUe ≠ none)
  Fallible.assert .mmeContext ((s.enbUes.mem targetUe).sourceUe ≠ none)
  let s := s.modifyEnbUe sourceUe fun e => { e with targetUe := none }
  .ok (s.modifyEnbUe targetUe fun e => { e with sourceUe := none })

def sourceUeDeassociateTargetUe (enbUe : EnbUeId) : MmeM S1Mme :=
  match (s.enbUes.mem enbUe).targetUe, (s.enbUes.mem enbUe).sourceUe with
  | some targetUe, _ => s.clearHandover enbUe targetUe
  | none, some sourceUe => s.clearHandover sourceUe enbUe
  | none, none => .ok s

end S1Mme

end NextEpc

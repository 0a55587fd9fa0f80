import NextEpc.Mme.S1Setup
import NextEpc.Mme.S1apPath

/-!
# The handlers of S1AP messages

`s1ap-handler.c`: each handler takes the information elements it knows from a message of an eNB,
and asserts that those it needs are there.
-/

namespace NextEpc

open Octets

/-! ## Information elements -/

/-- `S1AP_ENB_ID_t` -/
inductive S1apEnbId
  | home (buf : Octets4)
  | macroEnbId (buf : Vector UInt8 3)
  | other
  deriving DecidableEq, Repr

/-- `S1AP_E_RABSetupItemCtxtSURes_t` and its like -/
structure S1apErab where
  eRabId : UInt8
  transportLayerAddress : Bytes
  gTpTeid : Octets4
  deriving DecidableEq, Repr

/-- `S1AP_E_RABAdmittedItem_t`. The other two end points are for forwarded data. -/
structure S1apErabAdmitted extends S1apErab where
  dL : Option (Bytes × Octets4)
  uL : Option (Bytes × Octets4)
  deriving DecidableEq, Repr

/-- `S1AP_UESecurityCapabilities_t`, in host order -/
structure S1apUeSecurityCapabilities where
  encryptionAlgorithms : UInt16
  integrityProtectionAlgorithms : UInt16
  deriving DecidableEq, Repr

/-- `S1AP_UE_associatedLogicalS1_ConnectionItem_t` -/
structure S1apConnectionItem where
  mMeUeS1apId : Option UInt32
  eNbUeS1apId : Option UInt32
  deriving DecidableEq, Repr

/-- `S1AP_ResetType_t` -/
inductive S1apResetType
  | nothing
  | s1Interface
  | partOfS1Interface (list : List S1apConnectionItem)
  deriving DecidableEq, Repr

/-- `S1AP_TargetID_t` -/
inductive S1apTargetId
  | targetEnbId (eNbId : S1apEnbId)
  | other
  deriving DecidableEq, Repr

/-- The information elements of a message -/
structure S1apIes where
  globalEnbId : Option S1apEnbId := none
  /-- Items of a TAC and the PLMNs that are broadcast -/
  supportedTas : Option (List (Bytes × List Bytes)) := none
  enbUeS1apId : Option UInt32 := none
  mmeUeS1apId : Option UInt32 := none
  sourceMmeUeS1apId : Option UInt32 := none
  nasPdu : Option Bytes := none
  tai : Option S1apTai := none
  eutranCgi : Option S1apEutranCgi := none
  sTmsi : Option S1apSTmsi := none
  ueRadioCapability : Option Bytes := none
  eRabSetupListCtxtSuRes : Option (List S1apErab) := none
  eRabSetupListBearerSuRes : Option (List S1apErab) := none
  eRabToBeSwitchedDlList : Option (List S1apErab) := none
  eRabAdmittedList : Option (List S1apErabAdmitted) := none
  cause : Option S1apCause := none
  ueSecurityCapabilities : Option S1apUeSecurityCapabilities := none
  /-- The source and the target of an `S1AP_SONConfigurationTransfer_t` -/
  sonConfigurationTransfer : Option (S1apEnbId × S1apEnbId) := none
  handoverType : Option Nat := none
  targetId : Option S1apTargetId := none
  targetToSourceTransparentContainer : Option Bytes := none
  enbStatusTransferTransparentContainer : Option Bytes := none
  resetType : Option S1apResetType := none

/-- The messages of an eNB that `s1ap_state_operational` tells apart -/
inductive S1apProcedure
  | s1SetupRequest
  | initialUeMessage
  | uplinkNasTransport
  | ueCapabilityInfoIndication
  | ueContextReleaseRequest
  | pathSwitchRequest
  | enbConfigurationTransfer
  | handoverRequired
  | handoverCancel
  | enbStatusTransfer
  | handoverNotification
  | s1Reset
  | initialContextSetupResponse
  | ueContextModificationResponse
  | ueContextReleaseComplete
  | eRabSetupResponse
  | eRabModifyResponse
  | eRabReleaseResponse
  | handoverRequestAck
  | writeReplaceWarningResponse
  | killResponse
  | initialContextSetupFailure
  | ueContextModificationFailure
  | handoverFailure
  | notImplemented
  deriving DecidableEq, Repr

/-- What else the outcome of a message depends on: the slot that the pool of S1 connections gives
out, whether the event queue takes an event, and the TAIs that are served. -/
structure S1apEnv where
  slot : Option EnbUeId
  taken : Bool
  mmeFindServedTai : OgsTai → Bool

/-- `GTP_COUNTER_INCREMENT` -/
def GtpCounter.inc (counter : GtpCounter) : GtpCounter :=
  { counter with request := counter.request + 1 }

/-- The start of `GTP_COUNTER_CHECK`: the counter after a response, and whether it is the last. -/
def GtpCounter.check (counter : GtpCounter) : GtpCounter × Bool :=
  if counter.request = 0 then (counter, false)
  else if counter.request = counter.response + 1 then (⟨0, 0⟩, true)
  else ({ counter with response := counter.response + 1 }, false)

/-- `ogs_s1ap_ENB_ID_to_uint32` -/
def s1apEnbIdToUint32 : S1apEnbId → MmeM UInt32
  | .home buf =>
    let octet (i : Nat) : Nat := (buf.toList.getD i 0).toNat
    .ok (UInt32.ofNat (octet 0 * 2 ^ 20 + octet 1 * 2 ^ 12 + octet 2 * 2 ^ 4 + octet 3 / 2 ^ 4))
  | .macroEnbId buf =>
    let octet (i : Nat) : Nat := (buf.toList.getD i 0).toNat
    .ok (UInt32.ofNat (octet 0 * 2 ^ 12 + octet 1 * 2 ^ 4 + octet 2 / 2 ^ 4))
  | .other => .error (.assert .s1apHandler)

/-- `ogs_s1ap_BIT_STRING_to_ip`: an IPv4 address, an IPv6 address or both -/
def s1apBitStringToIp (bitString : Bytes) : MmeM Bytes := do
  Fallible.assert .s1apHandler
    (bitString.length = 4 ∨ bitString.length = 16 ∨ bitString.length = 20)
  .ok bitString

/-- The cell identity has 28 bits, in four octets. -/
def S1apEutranCgi.cellIdValue (cgi : S1apEutranCgi) : Nat := value (cgi.cellId.take 4) / 2 ^ 4

/-- A TAI and an ECGI whose sizes are asserted -/
def s1apUserLocation (tai : S1apTai) (cgi : S1apEutranCgi) : MmeM UserLocation := do
  Fallible.assert .s1apHandler (tai.pLMNidentity.length = 3)
  Fallible.assert .s1apHandler (tai.tAC.length = 2)
  Fallible.assert .s1apHandler (cgi.pLMNidentity.length = 3)
  .ok ⟨⟨tai.pLMNidentity, value tai.tAC⟩, ⟨cgi.pLMNidentity, cgi.cellIdValue⟩⟩

/-- Where the location of a UE that has moved is stored: the ECGI gets the PLMN of the TAI. -/
def s1apMovedLocation (tai : S1apTai) (cgi : S1apEutranCgi) : MmeM UserLocation := do
  let location ← s1apUserLocation tai cgi
  .ok { location with eCgi := { location.eCgi with plmnId := location.tai.plmnId } }

namespace S1Mme

/-! ## Steps that handlers share -/

section
variable (s : S1Mme)

/-- A connection of the eNB, which is asserted to exist. -/
def assertEnbUe (enb : MmeEnbId) (enbUeS1apId : Option UInt32) : MmeM EnbUeId := do
  let enbUeS1apId ← Fallible.assertSome .s1apHandler enbUeS1apId
  Fallible.assertSome .s1apHandler (s.enbUeFindByEnbUeS1apId enb enbUeS1apId)

/-- `mme_ue = enb_ue->mme_ue; ogs_assert(mme_ue);` -/
def assertMmeUe (enbUe : EnbUeId) : MmeM MmeUeId :=
  Fallible.assertSome .s1apHandler (s.enbUes.mem enbUe).mmeUe

/-- A connection of the eNB whose MME UE S1AP ID is asserted to be that of the message. -/
def assertBoth (enb : MmeEnbId) (ies : S1apIes) : MmeM EnbUeId := do
  let mmeUeS1apId ← Fallible.assertSome .s1apHandler ies.mmeUeS1apId
  let enbUe ← s.assertEnbUe enb ies.enbUeS1apId
  Fallible.assert .s1apHandler ((s.enbUes.mem enbUe).mmeUeS1apId = mmeUeS1apId)
  .ok enbUe

def assertBearer (mmeUe : MmeUeId) (ebi : UInt8) : MmeM (S1Sess × S1Bearer) :=
  Fallible.assertSome .s1apHandler ((s.mmeUes.mem mmeUe).bearerFindByUeEbi ebi)

/-- A write to the bearer of an E-RAB, which is asserted to exist. -/
def writeBearer (mmeUe : MmeUeId) (ebi : UInt8) (f : S1Bearer → S1Bearer) : S1Mme :=
  s.modifyMmeUe mmeUe fun ue => ue.updateBearer ebi f

/-- The end point of the eNB for an E-RAB -/
def setEnbS1u (mmeUe : MmeUeId) (erab : S1apErab) : MmeM S1Mme := do
  let _ ← s.assertBearer mmeUe erab.eRabId
  let ip ← s1apBitStringToIp erab.transportLayerAddress
  .ok (s.writeBearer mmeUe erab.eRabId fun bearer =>
    { bearer with enbS1u := ⟨ntohl erab.gTpTeid, ip⟩ })

def clearServiceIndicator (mmeUe : MmeUeId) : S1Mme :=
  s.modifyMmeUe mmeUe S1MmeUe.clearServiceIndicator

/-! ## The eNB -/

/-- The TAIs of `enb->supported_ta_list` -/
def supportedTais (supportedTas : List (Bytes × List Bytes)) : List OgsTai :=
  supportedTas.flatMap fun item => item.2.map fun plmnId => ⟨plmnId, value item.1⟩

/-- The array has an entry for each of so many TAIs; the next one is written outside of it. -/
def storeTais (tais : List OgsTai) : MmeM (List OgsTai) :=
  if tais.length ≤ sizeOfSupportedTaList then .ok tais else .error .outOfBounds

def s1apHandleS1SetupRequest (env : S1apEnv) (enb : MmeEnbId) (ies : S1apIes) : MmeM S1Mme := do
  let globalEnbId ← Fallible.assertSome .s1apHandler ies.globalEnbId
  let enbId ← s1apEnbIdToUint32 globalEnbId
  let s := { s with
    enbIds := Function.update s.enbIds enb enbId
    enbIdHash := Function.update s.enbIdHash enbId (some enb) }
  let supportedTas ← Fallible.assertSome .s1apHandler ies.supportedTas
  let tais ← storeTais (supportedTais supportedTas)
  let s := { s with supportedTaList := Function.update s.supportedTaList enb tais }
  if tais = [] then .ok (s.send (.toEnb enb (.setupFailure ⟨.misc, 4⟩)))
  else if tais.any env.mmeFindServedTai then .ok (s.send (.toEnb enb .setupResponse))
  else .ok (s.send (.toEnb enb (.setupFailure ⟨.misc, 5⟩)))

def s1apHandleEnbConfigurationTransfer (ies : S1apIes) : MmeM S1Mme :=
  match ies.sonConfigurationTransfer with
  | some (source, target) => do
    let _ ← s1apEnbIdToUint32 source
    let targetEnbId ← s1apEnbIdToUint32 target
    match s.enbIdHash targetEnbId with
    | some targetEnb => .ok (s.send (.toEnb targetEnb .mmeConfigurationTransfer))
    | none => .ok s
  | none => .ok s

def s1apHandleS1ResetItem (enb : MmeEnbId) (item : S1apConnectionItem) : Option EnbUeId :=
  match item.mMeUeS1apId with
  | some mmeUeS1apId => s.enbUeFindByMmeUeS1apId mmeUeS1apId
  | none => item.eNbUeS1apId.bind (s.enbUeFindByEnbUeS1apId enb)

def s1apHandleS1Reset (enb : MmeEnbId) (ies : S1apIes) : MmeM S1Mme := do
  let _ ← Fallible.assertSome .s1apHandler ies.cause
  let resetType ← Fallible.assertSome .s1apHandler ies.resetType
  let s := match resetType with
    | .s1Interface => s.enbUeRemoveInEnb enb
    | .partOfS1Interface list =>
      list.foldl (fun s item =>
        match s.s1apHandleS1ResetItem enb item with
        | some enbUe => s.enbUeRemove enbUe
        | none => s) s
    | .nothing => s
  .ok (s.send (.toEnb enb .resetAck))

/-! ## Contexts -/

def s1apHandleUeCapabilityInfoIndication (enb : MmeEnbId) (ies : S1apIes) : MmeM S1Mme := do
  let enbUe ← s.assertEnbUe enb ies.enbUeS1apId
  match (s.enbUes.mem enbUe).mmeUe with
  | some mmeUe => do
    let ueRadioCapability ← Fallible.assertSome .s1apHandler ies.ueRadioCapability
    .ok (s.modifyMmeUe mmeUe fun ue => { ue with ueRadioCapability := some ueRadioCapability })
  | none => .ok s

/-- The path to the eNB. An active bearer is reported to the SGW, with the location of the UE
unless it is attaching. -/
def initialContextErab (mmeUe : MmeUeId) (erab : S1apErab) : MmeM S1Mme := do
  let (_, bearer) ← s.assertBearer mmeUe erab.eRabId
  let s ← s.setEnbS1u mmeUe erab
  if bearer.sm = .active then
    .ok (s.mmeGtpSendModifyBearerRequest mmeUe bearer.ebi
      ((s.mmeUes.mem mmeUe).nasEps.type ≠ .attachRequest))
  else .ok s

def s1apHandleInitialContextSetupResponse (enb : MmeEnbId) (ies : S1apIes) : MmeM S1Mme := do
  let enbUe ← s.assertEnbUe enb ies.enbUeS1apId
  let mmeUe ← s.assertMmeUe enbUe
  let list ← Fallible.assertSome .s1apHandler ies.eRabSetupListCtxtSuRes
  let s ← list.foldlM (fun s erab => s.initialContextErab mmeUe erab) s
  let s := if (s.mmeUes.mem mmeUe).smsServiceIndicator then s.send (.toVlr mmeUe) else s
  .ok (s.clearServiceIndicator mmeUe)

/-- Without a connection, the service indicator of no UE is cleared at the end. -/
def s1apHandleInitialContextSetupFailure (enb : MmeEnbId) (ies : S1apIes) : MmeM S1Mme := do
  let enbUeS1apId ← Fallible.assertSome .s1apHandler ies.enbUeS1apId
  let _ ← Fallible.assertSome .s1apHandler ies.cause
  match s.enbUeFindByEnbUeS1apId enb enbUeS1apId with
  | none => .error .dangling
  | some enbUe => do
    let mmeUe ← s.assertMmeUe enbUe
    let s ← (if (s.mmeUes.mem mmeUe).sm = .registered then .ok s
      else s.mmeSendDeleteSessionOrUeContextRelease mmeUe enbUe)
    .ok (s.clearServiceIndicator mmeUe)

def s1apHandleUeContextModificationResponse (enb : MmeEnbId) (ies : S1apIes) : MmeM S1Mme := do
  let enbUe ← s.assertEnbUe enb ies.enbUeS1apId
  let mmeUe ← s.assertMmeUe enbUe
  .ok (s.clearServiceIndicator mmeUe)

/-- Without a connection, the UE of none is read at the end. -/
def s1apHandleUeContextModificationFailure (enb : MmeEnbId) (ies : S1apIes) : MmeM S1Mme := do
  let enbUeS1apId ← Fallible.assertSome .s1apHandler ies.enbUeS1apId
  let _ ← Fallible.assertSome .s1apHandler ies.cause
  match s.enbUeFindByEnbUeS1apId enb enbUeS1apId with
  | none => .error .dangling
  | some enbUe => do
    let mmeUe ← s.assertMmeUe enbUe
    .ok (s.clearServiceIndicator mmeUe)

/-- The path to the eNB. An active bearer is reported to the SGW: a default bearer with a Modify
Bearer Request, another one with a Create Bearer Response. -/
def setupErab (mmeUe : MmeUeId) (erab : S1apErab) : MmeM S1Mme := do
  let (sess, bearer) ← s.assertBearer mmeUe erab.eRabId
  let s ← s.setEnbS1u mmeUe erab
  if bearer.sm = .active then do
    let linkedBearer ← Fallible.assertSome .s1apHandler sess.bearerList.head?
    if bearer.ebi = linkedBearer.ebi then
      .ok (s.mmeGtpSendModifyBearerRequest mmeUe bearer.ebi false)
    else .ok (s.send (.toSgw mmeUe (.createBearerResponse bearer.ebi)))
  else .ok s

def s1apHandleERabSetupResponse (enb : MmeEnbId) (ies : S1apIes) : MmeM S1Mme := do
  let enbUe ← s.assertEnbUe enb ies.enbUeS1apId
  let mmeUe ← s.assertMmeUe enbUe
  let list ← Fallible.assertSome .s1apHandler ies.eRabSetupListBearerSuRes
  list.foldlM (fun s erab => s.setupErab mmeUe erab) s

/-! ## Release -/

def unknownMmeUeS1apId : S1apCause := ⟨.radioNetwork, 13⟩

def s1apHandleUeContextReleaseRequest (enb : MmeEnbId) (ies : S1apIes) : MmeM S1Mme := do
  let mmeUeS1apId ← Fallible.assertSome .s1apHandler ies.mmeUeS1apId
  match s.enbUeFindByMmeUeS1apId mmeUeS1apId with
  | none =>
    .ok (s.send (.toEnb enb
      (.errorIndication (some mmeUeS1apId) ies.enbUeS1apId unknownMmeUeS1apId)))
  | some enbUe => do
    let _ ← Fallible.assertSome .s1apHandler ies.cause
    match (s.enbUes.mem enbUe).mmeUe with
    | some mmeUe =>
      if (s.mmeUes.mem mmeUe).sm = .registered then
        s.mmeSendReleaseAccessBearerOrUeContextRelease mmeUe enbUe
      else s.mmeSendDeleteSessionOrUeContextRelease mmeUe enbUe
    | none =>
      (s.clearEnbUeTimer enbUe).s1apSendUeContextReleaseCommand enbUe nasNormalRelease
        .noAction false

/-- The UE that a pointer of a connection points to -/
def useMmeUe (mmeUe : Option MmeUeId) : MmeM MmeUeId := do
  let mmeUe ← Fallible.assertSome .mmeContext mmeUe
  if s.mmeUes.live mmeUe then .ok mmeUe else .error .dangling

def s1apHandleUeContextReleaseComplete (enb : MmeEnbId) (ies : S1apIes) : MmeM S1Mme := do
  let mmeUeS1apId ← Fallible.assertSome .s1apHandler ies.mmeUeS1apId
  match s.enbUeFindByMmeUeS1apId mmeUeS1apId with
  | none =>
    .ok (s.send (.toEnb enb (.errorIndication (some mmeUeS1apId) none unknownMmeUeS1apId)))
  | some enbUe =>
    let mmeUe := (s.enbUes.mem enbUe).mmeUe
    match (s.enbUes.mem enbUe).ueCtxRelAction with
    | .noAction => .ok (s.enbUeRemove enbUe)
    | .s1NormalRelease => do
      let s := s.enbUeRemove enbUe
      let mmeUe ← s.useMmeUe mmeUe
      .ok (s.mmeUeDeassociate mmeUe)
    | .ueContextRemove => do
      let s := s.enbUeRemove enbUe
      let mmeUe ← s.useMmeUe mmeUe
      .ok (s.mmeUeRemove mmeUe)
    | .deleteIndirectTunnel => do
      let s ← s.sourceUeDeassociateTargetUe enbUe
      let s := s.enbUeRemove enbUe
      let mmeUe ← s.useMmeUe mmeUe
      if (s.mmeUes.mem mmeUe).haveIndirectTunnel then
        .ok (s.send (.toSgw mmeUe .deleteIndirectDataForwardingTunnelRequest))
      else .ok (s.modifyMmeUe mmeUe S1MmeUe.clearIndirectTunnel)
    | .invalidAction => .error (.assert .s1apHandler)

end

section
variable [OgsCrypt] (s : S1Mme)

/-! ## NAS messages -/

/-- A UE that comes back with its S-TMSI is tied to the new connection. An older connection that it
has is released. -/
def associateSTmsi (enbUe : EnbUeId) (sTmsi : Option S1apSTmsi) : S1Mme :=
  match sTmsi.bind s.gutiUeHash with
  | some mmeUe =>
    let s := match (s.mmeUes.mem mmeUe).enbUe with
      | some old => s.enbUeRemove old
      | none => s
    s.mmeUeAssociateEnbUe mmeUe enbUe
  | none => s

def initialUe [Ogslib] (env : S1apEnv) (enb : MmeEnbId) (enbUeS1apId : UInt32)
    (sTmsi : Option S1apSTmsi) : MmeM (S1Mme × EnbUeId) :=
  match s.enbUeFindByEnbUeS1apId enb enbUeS1apId with
  | some enbUe => .ok (s, enbUe)
  | none => do
    let enbUe ← Fallible.assertSome .s1apHandler (s.enbUePoolAlloc env.slot)
    let s := (s.enbUeAdd enbUe enb).modifyEnbUe enbUe fun e => { e with enbUeS1apId := enbUeS1apId }
    .ok (s.associateSTmsi enbUe sTmsi, enbUe)

def s1apHandleInitialUeMessage [Ogslib] (env : S1apEnv) (enb : MmeEnbId) (ies : S1apIes) :
    MmeM S1Mme := do
  let enbUeS1apId ← Fallible.assertSome .s1apHandler ies.enbUeS1apId
  let (s, enbUe) ← s.initialUe env enb enbUeS1apId ies.sTmsi
  let tai ← Fallible.assertSome .s1apHandler ies.tai
  let eutranCgi ← Fallible.assertSome .s1apHandler ies.eutranCgi
  let saved ← s1apUserLocation tai eutranCgi
  let s := s.modifyEnbUe enbUe fun e => { e with saved := saved }
  s.s1apSendToNas env.taken enbUe .initialUeMessage ies.nasPdu

def s1apHandleUplinkNasTransport (env : S1apEnv) (enb : MmeEnbId) (ies : S1apIes) :
    MmeM S1Mme := do
  let enbUeS1apId ← Fallible.assertSome .s1apHandler ies.enbUeS1apId
  match s.enbUeFindByEnbUeS1apId enb enbUeS1apId with
  | none => .ok s
  | some enbUe => s.s1apSendToNas env.taken enbUe .uplinkNasTransport ies.nasPdu

/-! ## Mobility -/

/-- What a Path Switch Request changes of the UE -/
def pathSwitchUe (mmeUe : MmeUeId) (location : UserLocation)
    (capabilities : S1apUeSecurityCapabilities) : S1Mme :=
  s.modifyMmeUe mmeUe fun ue =>
    { ue with
      location := location
      toMmeUe := { ue.toMmeUe with
        eea := UInt8.ofNat (0x80 + capabilities.encryptionAlgorithms.toNat / 2 ^ 9)
        eia := UInt8.ofNat (capabilities.integrityProtectionAlgorithms.toNat / 2 ^ 9) } }

def pathSwitchErab (mmeUe : MmeUeId) (erab : S1apErab) : MmeM S1Mme := do
  let (_, bearer) ← s.assertBearer mmeUe erab.eRabId
  let s ← s.setEnbS1u mmeUe erab
  let s := s.modifyMmeUe mmeUe fun ue => { ue with pathSwitchCounter := ue.pathSwitchCounter.inc }
  .ok (s.mmeGtpSendModifyBearerRequest mmeUe bearer.ebi true)

def s1apHandlePathSwitchRequest (enb : MmeEnbId) (ies : S1apIes) : MmeM S1Mme := do
  let eutranCgi ← Fallible.assertSome .s1apHandler ies.eutranCgi
  let tai ← Fallible.assertSome .s1apHandler ies.tai
  let location ← s1apMovedLocation tai eutranCgi
  let capabilities ← Fallible.assertSome .s1apHandler ies.ueSecurityCapabilities
  let mmeUeS1apId ← Fallible.assertSome .s1apHandler ies.sourceMmeUeS1apId
  let enbUeS1apId ← Fallible.assertSome .s1apHandler ies.enbUeS1apId
  match s.enbUeFindByMmeUeS1apId mmeUeS1apId with
  | none =>
    .ok (s.send (.toEnb enb (.pathSwitchFailure enbUeS1apId mmeUeS1apId unknownMmeUeS1apId)))
  | some enbUe => do
    let mmeUe ← s.assertMmeUe enbUe
    if (s.mmeUes.mem mmeUe).SecurityContextIsValid then do
      let s := s.modifyMmeUe mmeUe S1MmeUe.nextNh
      let s := s.modifyEnbUe enbUe fun e =>
        { e with enbUeS1apId := enbUeS1apId, saved := location }
      let s := s.pathSwitchUe mmeUe location capabilities
      let list ← Fallible.assertSome .s1apHandler ies.eRabToBeSwitchedDlList
      let s ← list.foldlM (fun s erab => s.pathSwitchErab mmeUe erab) s
      .ok (s.enbUeSwitchToEnb enbUe enb)
    else
      .ok (s.send (.toEnbUe enbUe (.pathSwitchFailure enbUeS1apId mmeUeS1apId ⟨.nas, 1⟩)))

def s1apHandleHandoverRequired [Ogslib] (env : S1apEnv) (enb : MmeEnbId) (ies : S1apIes) :
    MmeM S1Mme := do
  match ← Fallible.assertSome .s1apHandler ies.targetId with
  | .other => .ok s
  | .targetEnbId eNbId => do
    match s.enbIdHash (← s1apEnbIdToUint32 eNbId) with
    | none => .ok s
    | some targetEnb => do
      let sourceUe ← s.assertBoth enb ies
      let mmeUe ← s.assertMmeUe sourceUe
      if (s.mmeUes.mem mmeUe).SecurityContextIsValid then do
        let s := s.modifyMmeUe mmeUe S1MmeUe.nextNh
        let handoverType ← Fallible.assertSome .s1apHandler ies.handoverType
        let s := s.modifyEnbUe sourceUe fun e => { e with handoverType := handoverType }
        s.s1apSendHandoverRequest env.slot mmeUe targetEnb
      else do
        let cause ← Fallible.assertSome .s1apHandler ies.cause
        .ok (s.send (.toEnbUe sourceUe (.handoverPreparationFailure cause)))

end

section
variable (s : S1Mme)

/-- An end point of the eNB for data that is forwarded, if there is one -/
def setForwarding (mmeUe : MmeUeId) (ebi : UInt8) (endPoint : Option (Bytes × Octets4))
    (write : GtpEndPoint → S1Bearer → S1Bearer) : MmeM S1Mme :=
  match endPoint with
  | some (address, teid) => do
    let ip ← s1apBitStringToIp address
    .ok (s.writeBearer mmeUe ebi (write ⟨ntohl teid, ip⟩))
  | none => .ok s

/-- The end point of the target eNB, and those for data that is forwarded -/
def admitErab (mmeUe : MmeUeId) (erab : S1apErabAdmitted) : MmeM S1Mme := do
  let _ ← s.assertBearer mmeUe erab.eRabId
  let ip ← s1apBitStringToIp erab.transportLayerAddress
  let s := s.writeBearer mmeUe erab.eRabId fun bearer =>
    { bearer with targetS1u := ⟨ntohl erab.gTpTeid, ip⟩ }
  let s ← s.setForwarding mmeUe erab.eRabId erab.dL fun endPoint bearer =>
    { bearer with enbDl := endPoint }
  s.setForwarding mmeUe erab.eRabId erab.uL fun endPoint bearer => { bearer with enbUl := endPoint }

def s1apHandleHandoverRequestAck (ies : S1apIes) : MmeM S1Mme := do
  let mmeUeS1apId ← Fallible.assertSome .s1apHandler ies.mmeUeS1apId
  let enbUeS1apId ← Fallible.assertSome .s1apHandler ies.enbUeS1apId
  let list ← Fallible.assertSome .s1apHandler ies.eRabAdmittedList
  let container ← Fallible.assertSome .s1apHandler ies.targetToSourceTransparentContainer
  let targetUe ← Fallible.assertSome .s1apHandler (s.enbUeFindByMmeUeS1apId mmeUeS1apId)
  let s := s.modifyEnbUe targetUe fun e => { e with enbUeS1apId := enbUeS1apId }
  let sourceUe ← Fallible.assertSome .s1apHandler (s.enbUes.mem targetUe).sourceUe
  let mmeUe ← s.assertMmeUe sourceUe
  let s ← list.foldlM (fun s erab => s.admitErab mmeUe erab) s
  let s := s.modifyMmeUe mmeUe fun ue => { ue with container := some container }
  if (s.mmeUes.mem mmeUe).haveIndirectTunnel then
    .ok (s.send (.toSgw mmeUe .createIndirectDataForwardingTunnelRequest))
  else .ok (s.send (.toEnbUe sourceUe .handoverCommand))

/-- `S1AP_CauseRadioNetwork_ho_failure_in_target_EPC_eNB_or_target_system` -/
def hoFailureInTarget : S1apCause := ⟨.radioNetwork, 6⟩

def s1apHandleHandoverFailure (ies : S1apIes) : MmeM S1Mme := do
  let mmeUeS1apId ← Fallible.assertSome .s1apHandler ies.mmeUeS1apId
  let cause ← Fallible.assertSome .s1apHandler ies.cause
  let targetUe ← Fallible.assertSome .s1apHandler (s.enbUeFindByMmeUeS1apId mmeUeS1apId)
  let sourceUe ← Fallible.assertSome .s1apHandler (s.enbUes.mem targetUe).sourceUe
  let s := s.send (.toEnbUe sourceUe (.handoverPreparationFailure cause))
  (s.clearEnbUeTimer targetUe).s1apSendUeContextReleaseCommand targetUe hoFailureInTarget
    .deleteIndirectTunnel false

/-- `S1AP_CauseRadioNetwork_handover_cancelled` -/
def handoverCancelled : S1apCause := ⟨.radioNetwork, 4⟩

def s1apHandleHandoverCancel (enb : MmeEnbId) (ies : S1apIes) : MmeM S1Mme := do
  let _ ← Fallible.assertSome .s1apHandler ies.cause
  let sourceUe ← s.assertBoth enb ies
  let targetUe ← Fallible.assertSome .s1apHandler (s.enbUes.mem sourceUe).targetUe
  let s := s.send (.toEnbUe sourceUe .handoverCancelAck)
  (s.clearEnbUeTimer targetUe).s1apSendUeContextReleaseCommand targetUe handoverCancelled
    .deleteIndirectTunnel true

def s1apHandleEnbStatusTransfer (enb : MmeEnbId) (ies : S1apIes) : MmeM S1Mme := do
  let _ ← Fallible.assertSome .s1apHandler ies.enbStatusTransferTransparentContainer
  let sourceUe ← s.assertBoth enb ies
  let targetUe ← Fallible.assertSome .s1apHandler (s.enbUes.mem sourceUe).targetUe
  .ok (s.send (.toEnbUe targetUe .mmeStatusTransfer))

/-- All bearers get the path to the target eNB, which is reported to the SGW. -/
def notifyBearers (mmeUe : MmeUeId) : S1Mme :=
  (s.mmeUes.mem mmeUe).bearers.foldl
    (fun s bearer =>
      let s := s.modifyMmeUe mmeUe fun ue =>
        { ue with handoverNotifyCounter := ue.handoverNotifyCounter.inc }
      s.mmeGtpSendModifyBearerRequest mmeUe bearer.ebi true)
    (s.modifyMmeUe mmeUe fun ue =>
      ue.updateBearers fun bearer => { bearer with enbS1u := bearer.targetS1u })

def s1apHandleHandoverNotification (enb : MmeEnbId) (ies : S1apIes) : MmeM S1Mme := do
  let eutranCgi ← Fallible.assertSome .s1apHandler ies.eutranCgi
  let tai ← Fallible.assertSome .s1apHandler ies.tai
  let location ← s1apMovedLocation tai eutranCgi
  let targetUe ← s.assertBoth enb ies
  let sourceUe ← Fallible.assertSome .s1apHandler (s.enbUes.mem targetUe).sourceUe
  let mmeUe ← s.assertMmeUe sourceUe
  let s := s.mmeUeAssociateEnbUe mmeUe targetUe
  let s := s.modifyEnbUe targetUe fun e => { e with saved := location }
  let s := s.modifyMmeUe mmeUe fun ue => { ue with location := location }
  .ok (s.notifyBearers mmeUe)

end

/-! ## All messages -/

/-- `s1ap_state_operational` for a message -/
def s1apHandle [Ogslib] [OgsCrypt] (s : S1Mme) (env : S1apEnv) (enb : MmeEnbId) (ies : S1apIes) :
    S1apProcedure → MmeM S1Mme
  | .s1SetupRequest => s.s1apHandleS1SetupRequest env enb ies
  | .initialUeMessage => s.s1apHandleInitialUeMessage env enb ies
  | .uplinkNasTransport => s.s1apHandleUplinkNasTransport env enb ies
  | .ueCapabilityInfoIndication => s.s1apHandleUeCapabilityInfoIndication enb ies
  | .ueContextReleaseRequest => s.s1apHandleUeContextReleaseRequest enb ies
  | .pathSwitchRequest => s.s1apHandlePathSwitchRequest enb ies
  | .enbConfigurationTransfer => s.s1apHandleEnbConfigurationTransfer ies
  | .handoverRequired => s.s1apHandleHandoverRequired env enb ies
  | .handoverCancel => s.s1apHandleHandoverCancel enb ies
  | .enbStatusTransfer => s.s1apHandleEnbStatusTransfer enb ies
  | .handoverNotification => s.s1apHandleHandoverNotification enb ies
  | .s1Reset => s.s1apHandleS1Reset enb ies
  | .initialContextSetupResponse => s.s1apHandleInitialContextSetupResponse enb ies
  | .ueContextModificationResponse => s.s1apHandleUeContextModificationResponse enb ies
  | .ueContextReleaseComplete => s.s1apHandleUeContextReleaseComplete enb ies
  | .eRabSetupResponse => s.s1apHandleERabSetupResponse enb ies
  | .handoverRequestAck => s.s1apHandleHandoverRequestAck ies
  | .initialContextSetupFailure => s.s1apHandleInitialContextSetupFailure enb ies
  | .ueContextModificationFailure => s.s1apHandleUeContextModificationFailure enb ies
  | .handoverFailure => s.s1apHandleHandoverFailure ies
  | .eRabModifyResponse | .eRabReleaseResponse | .writeReplaceWarningResponse | .killResponse
  | .notImplemented => .ok s

end S1Mme

end NextEpc

import NextEpc.Lib.Trace
import NextEpc.Mme.EmmSm

/-!
# The runs of one UE

`mme_state_operational` of `mme-sm.c` with the handlers that it calls, as far as they touch
the context of a UE, and `s1ap_send_to_nas`. A step handles one event of the MME. The events
with NAS messages come from the event queue, all others in any order; the sessions and
bearers of the UE and its S1 connections act through the calls they make.
-/

namespace NextEpc

section
variable [OgsCrypt]

/-! ## NAS messages -/

/-- `OGS_NAS_PROTOCOL_DISCRIMINATOR_EMM` -/
def nasProtocolDiscriminatorEmm : UInt8 := 0x07

/-- `OGS_NAS_PROTOCOL_DISCRIMINATOR_ESM` -/
def nasProtocolDiscriminatorEsm : UInt8 := 0x02

/-- `nas_security_decode` of a PDU for this UE. -/
def Mme.nasSecurityDecode (m : Mme) (type : NasSecurityHeaderType) (pdu : Bytes)
    (nasbuf : Pkbuf) : MmeM (Mme × Pkbuf) := do
  let (ue, nasbuf, rv) ← NextEpc.nasSecurityDecode m.ue type nasbuf
  Fallible.assert .s1apSendToNas (rv = .ok)
  .ok ({ m with ue := ue }.say (.nasSecurityDecode m.ue pdu), nasbuf)

/-- The PDU is decoded if it came on a connection of this UE. -/
def Mme.decodeLinked (m : Mme) (enbUe : EnbUeId) (type : NasSecurityHeaderType) (pdu : Bytes)
    (nasbuf : Pkbuf) : MmeM (Mme × Pkbuf × Option (MmeUe × MmeUe)) :=
  if m.enbUes enbUe = .this then do
    let (m', nasbuf) ← m.nasSecurityDecode type pdu nasbuf
    .ok (m', nasbuf, some (m.ue, m'.ue))
  else .ok (m, nasbuf, none)

omit [OgsCrypt] in
/-- An event is put into the queue if there is room. -/
def Mme.push (m : Mme) (pushed : Bool) (e : MmeEvent) : Mme :=
  if pushed then { m with queue := m.queue ++ [e] } else m

/-- A NAS-PDU on a connection of this UE or of none. -/
def s1apSendToNas (env : MmeEnv) (enbUe : EnbUeId) (s1apCode : S1apProcedureCode)
    (nasPdu : Bytes) (m : Mme) : MmeM Mme := do
  let (type, nasbuf) ← Fallible.assertSome .s1apSendToNas (← s1apStripSecurityHeader nasPdu)
  let (m, nasbuf, decoded) ← m.decodeLinked enbUe type nasPdu nasbuf
  let origin : NasOrigin := ⟨nasPdu, decoded⟩
  let first ← Fallible.assertSome .s1apSendToNas nasbuf.data.head?
  if first &&& 0x0f = nasProtocolDiscriminatorEmm then
    .ok (m.push env.pushed (.emm ⟨enbUe, s1apCode, type, nasbuf, origin⟩))
  else if first &&& 0x0f = nasProtocolDiscriminatorEsm then do
    Fallible.assert .s1apSendToNas (m.enbUes enbUe = .this)
    .ok (m.push env.pushed (.esm (some origin)))
  else .error (.assert .s1apSendToNas)

omit [OgsCrypt] in
/-- An older connection is released implicitly before the new one is associated. -/
def Mme.associateEnbUe (m : Mme) (enbUe : EnbUeId) : Mme :=
  let enbUes := match m.ue.enbUe with
    | some old => Function.update m.enbUes old .none
    | none => m.enbUes
  { m with
    ue := { m.ue with enbUe := some enbUe }
    enbUes := Function.update enbUes enbUe .this }

/-- The check of a message from a connection that is not associated. A message that was
decoded when it came, because the connection was associated then, is decoded once more. -/
def Mme.decodeFound (m : Mme) (e : NasEvent) : MmeM (Mme × NasEvent) :=
  if e.nasType.integrityProtected then do
    let type := { e.nasType with ciphered := false }
    let (m', pkbuf) ← m.nasSecurityDecode type e.origin.pdu e.pkbuf
    match e.origin.decoded with
    | none =>
      let origin := { e.origin with decoded := some (m.ue, m'.ue) }
      .ok (m', { e with pkbuf := pkbuf, origin := origin })
    | some _ => .ok ({ m with ue := m'.ue }, { e with pkbuf := pkbuf })
  else .ok (m, e)

/-- The message is handed to the state machine. In `emm_state_exception` the UE is released. -/
def Mme.handle (cfg : MmeConfig) (env : MmeEnv) (e : NasEvent) (message : EmmMessage) (m : Mme) :
    MmeM Mme := do
  let h : Handling := ⟨e, message, m.ue, env.tail⟩
  let m ← ogsFsmDispatchMessage cfg env h ({ m with handling := some h }.say .emmMessage)
  let m := if m.ue.sm = .exception then mmeSendDeleteSessionOrUeContextRelease m else m
  .ok { m with handling := none }

/-- `MME_EVT_EMM_MESSAGE`. A message that is not found to be from this UE is the business of
another one. -/
def mmeEmmMessage [NasDecoder] (cfg : MmeConfig) (env : MmeEnv) (e : NasEvent) (m : Mme) :
    MmeM Mme := do
  let message ← Fallible.assertSome .mmeSm (NasDecoder.emmDecode e.pkbuf.data)
  match m.enbUes e.enbUe with
  | .this => m.handle cfg env e message
  | .other => .ok m
  | .none =>
    if env.found then do
      let (m, e) ← m.decodeFound e
      (m.associateEnbUe e.enbUe).handle cfg env e message
    else .ok { m with enbUes := Function.update m.enbUes e.enbUe .other }

/-! ## Sessions and bearers -/

/-- What ESM, S11 and SGsAP procedures do with the context of a UE. -/
inductive EsmCall
  /-- A protected message is sent to the UE. -/
  | downlink (plain : Bytes)
  | attachAccept (plain : Bytes)
  | detach (plain : Bytes)
  | sessions (sgwS11Teid : UInt32) (sessionContextWillDeleted : Bool)
  deriving DecidableEq, Repr

def esmCall (call : EsmCall) (m : Mme) : MmeM Mme :=
  match call with
  | .downlink plain => emmBuildCiphered plain m
  | .attachAccept plain => nasSendAttachAccept plain m.clearT3450
  | .detach plain => mmeSendDeleteSessionOrDetach plain m
  | .sessions sgwS11Teid sessionContextWillDeleted =>
    .ok { m with
      ue := { m.ue with
        sgwS11Teid := sgwS11Teid
        sessionContextWillDeleted := sessionContextWillDeleted } }

def esmCalls : List EsmCall → Mme → MmeM Mme
  | [], m => .ok m
  | call :: calls, m => esmCall call m >>= esmCalls calls

/-- `MME_EVT_ESM_MESSAGE`, with what the bearer does if there is one. -/
def mmeEsmMessage (bearer : Option (List EsmCall)) (origin : Option NasOrigin) (m : Mme) :
    MmeM Mme :=
  match bearer with
  | some calls => esmCalls calls (m.say (.esmMessage origin))
  | none => .ok m

/-- `CLEAR_SESSION_CONTEXT` -/
def Mme.clearSessionContext (m : Mme) : Mme :=
  { m with ue := { m.ue with sgwS11Teid := 0, sessionContextWillDeleted := false } }

/-- What goes on when the last session is deleted. -/
def mmeS11LastSession (plain : Bytes) (m : Mme) : MmeM Mme :=
  match m.ue.sm with
  | .authentication => .ok (mmeS6aSendAir m)
  | .deRegistered => nasSendDetachAccept plain m
  | _ => .ok m

/-- `mme_s11_handle_delete_session_response`. What the bearer does with it in
`emm_state_registered` comes as a call of its own. -/
def mmeS11HandleDeleteSessionResponse (lastSession : Bool) (plain : Bytes) (m : Mme) :
    MmeM Mme := do
  Fallible.assert .s11Handler (m.ue.sm ≠ .securityMode)
  if lastSession then do
    let m ← mmeS11LastSession plain m
    .ok m.clearSessionContext
  else .ok m

/-! ## Answers of the HSS -/

omit [OgsCrypt] in
/-- `memcpy(mme_ue->xres, e_utran_vector->xres, xres_len)` -/
def MmeUe.storeXres (ue : MmeUe) (xres : Bytes) : Octets16 :=
  Vector.ofFn fun i => xres.getD i (ue.xres.get i)

omit [OgsCrypt] in
def MmeUe.storeVector (ue : MmeUe) (vector : EUtranVector) : MmeUe :=
  { ue with
    xresLen := UInt8.ofNat vector.xres.length
    xres := ue.storeXres vector.xres
    kasme := vector.kasme
    rand := vector.rand
    t3460 := .clear }

omit [OgsCrypt] in
def mmeS6aHandleAia (id : Nat) (vector : EUtranVector) (m : Mme) : MmeM Mme :=
  if 16 < vector.xres.length then .error .outOfBounds
  else nasSendAuthenticationRequest (some vector)
    ({ m with
      ue := m.ue.storeVector vector
      pendingAirs := m.pendingAirs.erase id }.say (.aia id vector))

/-- What follows the storing of the subscription in `mme_state_operational`. -/
def mmeS6aUla (env : MmeEnv) (m : Mme) : MmeM Mme :=
  match m.ue.sm, m.ue.nasEps.type with
  | .initialContextSetup, .attachRequest => nasSendEmmToEsm env m.ue.pdnConnectivityRequest m
  | .registered, .tauRequest => nasSendTauAccept .initialContextSetup env.plain m
  | .registered, .serviceRequest => s1apSendInitialContextSetupRequest m
  | _, _ => .error (.assert .mmeSm)

/-! ## S1AP procedures -/

/-- The part of `s1ap_handle_path_switch_request` about the context, with the capability
that the eNB sends. -/
def s1apHandlePathSwitchRequest (eea eia : UInt8) (m : Mme) : Mme :=
  if m.ue.SecurityContextIsValid then m.kdfNh.setUeNetworkCapability eea eia else m

def s1apHandleHandoverRequired (m : Mme) : Mme :=
  if m.ue.SecurityContextIsValid then m.kdfNh else m

/-! ## Steps -/

inductive MmeLabel
  | uplink (env : MmeEnv) (enbUe : EnbUeId) (s1apCode : S1apProcedureCode) (nasPdu : Bytes)
  | message (env : MmeEnv) (bearer : Option (List EsmCall))
  | timer (env : MmeEnv) (id : MmeTimerId)
  | aia (id : Nat) (vector : EUtranVector)
  /-- An answer with an error, to an Authentication-Information-Request or another one. -/
  | s6aError (id : Option Nat)
  | ula (env : MmeEnv)
  | deleteSessionResponse (lastSession : Bool) (plain : Bytes)
  | bearers (calls : List EsmCall)
  | pathSwitchRequest (eea eia : UInt8)
  | handoverRequired
  /-- Other S1AP procedures set up, move and release connections. -/
  | enbUes (enbUes : EnbUeId → EnbUeOwner) (enbUe : Option EnbUeId)

/-- The event at the head of the queue. -/
def Mme.message [NasDecoder] (cfg : MmeConfig) (env : MmeEnv) (bearer : Option (List EsmCall))
    (m : Mme) : MmeM Mme :=
  match m.queue with
  | .emm e :: queue => mmeEmmMessage cfg env e { m with queue := queue }
  | .esm origin :: queue => mmeEsmMessage bearer origin { m with queue := queue }
  | [] => .ok m

def Mme.step [NasDecoder] (cfg : MmeConfig) (m : Mme) : MmeLabel → MmeM Mme
  | .uplink env enbUe s1apCode nasPdu => s1apSendToNas env enbUe s1apCode nasPdu m
  | .message env bearer => m.message cfg env bearer
  | .timer env id => ogsFsmDispatchTimer cfg env id m
  | .aia id vector => mmeS6aHandleAia id vector m
  | .s6aError id => do
    Fallible.assert .mmeSm (m.ue.enbUe.isSome = true)
    .ok { m with pendingAirs := id.elim m.pendingAirs m.pendingAirs.erase }
  | .ula env => mmeS6aUla env m
  | .deleteSessionResponse lastSession plain =>
    mmeS11HandleDeleteSessionResponse lastSession plain m
  | .bearers calls => esmCalls calls m
  | .pathSwitchRequest eea eia => .ok (s1apHandlePathSwitchRequest eea eia m)
  | .handoverRequired => .ok (s1apHandleHandoverRequired m)
  | .enbUes enbUes enbUe => .ok { m with enbUes := enbUes, ue := { m.ue with enbUe := enbUe } }

omit [OgsCrypt] in
/-- The HSS answers each request once. -/
def Mme.Answers (m : Mme) : MmeLabel → Prop
  | .aia id _ => id ∈ m.pendingAirs
  | _ => True

def Mme.Step [NasDecoder] (cfg : MmeConfig) (m : Mme) (label : MmeLabel) (m' : Mme) : Prop :=
  m.Answers label ∧ m.step cfg label = .ok m'

omit [OgsCrypt] in
/-- A context that `mme_ue_add` has just taken from the pool. Of its memory only what
`mme_ue_remove` clears is known. -/
structure Mme.Initial (m : Mme) : Prop where
  sm : m.ue.sm = .deRegistered
  t3450 : m.ue.t3450 = .clear
  t3460 : m.ue.t3460 = .clear
  t3470 : m.ue.t3470 = .clear
  airs : m.airs = 0
  pendingAirs : m.pendingAirs = []
  queue : ∀ e ∈ m.queue, ∃ e', e = .emm e' ∧ e'.origin.decoded = none ∧
    s1apStripSecurityHeader e'.origin.pdu = .ok (some (e'.nasType, e'.pkbuf))
  handling : m.handling = none
  log : m.log = []

end

end NextEpc

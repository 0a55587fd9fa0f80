import NextEpc.Gtp.XactAssoc

/-!
# Bearer procedures of the serving gateway

The gateway passes a bearer request of the PGW on to the MME and the MME's answer back to
the PGW: the events of `sgw_state_operational` for these messages and for downlink data
notifications, and the two transaction timers. The request uses one transaction on each
side, associated with each other.

Of a message the model keeps which information elements are present. What the parser, the
builder, the contexts of users, sessions and bearers, the pools and the sockets return is
part of the event.
-/

namespace NextEpc

/-- The fields of `sgw_ue_t` that the bearer procedures use. -/
structure SgwUe where
  gnode : NodeId
  mmeS11Teid : UInt32
  deriving DecidableEq

/-- The fields of `sgw_sess_t` that the bearer procedures use. -/
structure SgwSess where
  gnode : NodeId
  pgwS5cTeid : UInt32
  sgwUe : SgwUe
  deriving DecidableEq

/-- The results of the calls made while one event is handled. -/
structure SgwEnv where
  /-- `ogs_gtp_parse_msg` succeeds. -/
  parsed : Bool
  /-- The objects that a handler asserts to have found or made are there. -/
  context : Bool
  /-- The session of the bearer that an answer names. -/
  bearerSess : Option SgwSess
  /-- The message made by `ogs_gtp_build_msg`. -/
  built : Option Bytes
  remoteCreate : CreateEnv
  localCreate : CreateEnv
  sendto : Bool
  deriving DecidableEq

structure CreateBearerRequest where
  linkedEpsBearerId : Bool
  bearerContexts : Bool
  epsBearerId : Bool
  s58USgwFTeid : Bool
  deriving DecidableEq

structure UpdateBearerRequest where
  bearerContexts : Bool
  epsBearerId : Bool
  deriving DecidableEq

structure DeleteBearerRequest where
  linkedEpsBearerId : Bool
  epsBearerIds : Bool
  deriving DecidableEq

structure CreateBearerResponse where
  bearerContexts : Bool
  epsBearerId : Bool
  s1UEnodebFTeid : Bool
  s4USgsnFTeid : Bool
  userLocationInformation : Bool
  deriving DecidableEq

structure UpdateBearerResponse where
  bearerContexts : Bool
  epsBearerId : Bool
  deriving DecidableEq

structure DeleteBearerResponse where
  bearerContexts : Bool
  epsBearerId : Bool
  deriving DecidableEq

inductive S5cMessage
  | createBearerRequest (req : CreateBearerRequest)
  | updateBearerRequest (req : UpdateBearerRequest)
  | deleteBearerRequest (req : DeleteBearerRequest)
  deriving DecidableEq

inductive S11Message
  | createBearerResponse (req : CreateBearerResponse)
  | updateBearerResponse (req : UpdateBearerResponse)
  | deleteBearerResponse (req : DeleteBearerResponse)
  | downlinkDataNotificationAcknowledge
  deriving DecidableEq

def S5cMessage.type : S5cMessage → UInt8
  | createBearerRequest _ => GtpType.createBearerRequest
  | updateBearerRequest _ => GtpType.updateBearerRequest
  | deleteBearerRequest _ => GtpType.deleteBearerRequest

def S11Message.type : S11Message → UInt8
  | createBearerResponse _ => GtpType.createBearerResponse
  | updateBearerResponse _ => GtpType.updateBearerResponse
  | deleteBearerResponse _ => GtpType.deleteBearerResponse
  | downlinkDataNotificationAcknowledge => GtpType.downlinkDataNotificationAcknowledge

section
variable [Ogslib] (s : GtpState) (env : SgwEnv)

/-! ## Requests of the PGW -/

/-- The end of the three request handlers: a transaction with the MME is created,
associated with that of the PGW and committed. -/
def sgwSendS11Request (s5cXact : XactIdx) (sgwUe : SgwUe) (type : UInt8) (sqn : Octets4) :
    XactM GtpState := do
  let pkbuf ← Fallible.assertSome .sgwHandler env.built
  let (s, s11Xact) ← ogsGtpXactLocalCreate s env.localCreate sgwUe.gnode
    ⟨type, sgwUe.mmeS11Teid, sqn⟩ pkbuf
  let s ← ogsGtpXactAssociate s s5cXact s11Xact
  ogsGtpXactCommit s s11Xact env.sendto

def sgwS5cHandleCreateBearerRequest (s5cXact : XactIdx) (sess : SgwSess) (sqn : Octets4)
    (req : CreateBearerRequest) : XactM GtpState :=
  if req.linkedEpsBearerId = false then .ok s
  else if req.bearerContexts = false then .ok s
  else if req.epsBearerId = false then .ok s
  else if req.s58USgwFTeid = false then .ok s
  else do
    Fallible.assert .sgwHandler (env.context = true)
    sgwSendS11Request s env s5cXact sess.sgwUe GtpType.createBearerRequest sqn

def sgwS5cHandleUpdateBearerRequest (s5cXact : XactIdx) (sess : SgwSess) (sqn : Octets4)
    (req : UpdateBearerRequest) : XactM GtpState :=
  if req.bearerContexts = false then .ok s
  else if req.epsBearerId = false then .ok s
  else sgwSendS11Request s env s5cXact sess.sgwUe GtpType.updateBearerRequest sqn

def sgwS5cHandleDeleteBearerRequest (s5cXact : XactIdx) (sess : SgwSess) (sqn : Octets4)
    (req : DeleteBearerRequest) : XactM GtpState :=
  if req.linkedEpsBearerId = false ∧ req.epsBearerIds = false then .ok s
  else sgwSendS11Request s env s5cXact sess.sgwUe GtpType.deleteBearerRequest sqn

/-! ## Answers of the MME -/

/-- The end of the three response handlers: the PGW's transaction gets the answer. The
MME's own transaction is not committed. -/
def sgwSendS5cResponse (s5cXact : XactIdx) (type : UInt8) (sqn : Octets4) : XactM GtpState := do
  let sess ← Fallible.assertSome .sgwHandler env.bearerSess
  Fallible.assert .sgwHandler (env.context = true)
  let pkbuf ← Fallible.assertSome .sgwHandler env.built
  let xact ← s.find s5cXact
  let xact ← ogsGtpXactUpdateTx xact ⟨type, sess.pgwS5cTeid, sqn⟩ pkbuf
  ogsGtpXactCommit (s.set s5cXact xact) s5cXact env.sendto

def sgwS11HandleCreateBearerResponse (s11Xact : XactIdx) (sqn : Octets4)
    (req : CreateBearerResponse) : XactM GtpState := do
  let xact ← s.find s11Xact
  let s5cXact ← Fallible.assertSome .sgwHandler xact.assocXact
  if req.bearerContexts = false then .ok s
  else if req.epsBearerId = false then .ok s
  else if req.s1UEnodebFTeid = false then .ok s
  else if req.s4USgsnFTeid = false then .ok s
  else if req.userLocationInformation = false then .ok s
  else sgwSendS5cResponse s env s5cXact GtpType.createBearerResponse sqn

def sgwS11HandleUpdateBearerResponse (s11Xact : XactIdx) (sqn : Octets4)
    (req : UpdateBearerResponse) : XactM GtpState := do
  let xact ← s.find s11Xact
  let s5cXact ← Fallible.assertSome .sgwHandler xact.assocXact
  if req.bearerContexts = false then .ok s
  else if req.epsBearerId = false then .ok s
  else sgwSendS5cResponse s env s5cXact GtpType.updateBearerResponse sqn

def sgwS11HandleDeleteBearerResponse (s11Xact : XactIdx) (sqn : Octets4)
    (req : DeleteBearerResponse) : XactM GtpState := do
  let xact ← s.find s11Xact
  let s5cXact ← Fallible.assertSome .sgwHandler xact.assocXact
  if req.bearerContexts = false then .ok s
  else if req.epsBearerId = false then .ok s
  else sgwSendS5cResponse s env s5cXact GtpType.deleteBearerResponse sqn

/-! ## Downlink data notifications -/

def sgwS11HandleLoDldataNotification (sgwUe : SgwUe) : XactM GtpState := do
  let pkbuf ← Fallible.assertSome .sgwHandler env.built
  let (s, xact) ← ogsGtpXactLocalCreate s env.localCreate sgwUe.gnode
    ⟨GtpType.downlinkDataNotification, sgwUe.mmeS11Teid, Octets.htonl 0⟩ pkbuf
  ogsGtpXactCommit s xact env.sendto

omit [Ogslib] in
def sgwS11HandleDownlinkDataNotificationAck (s11Xact : XactIdx) : XactM GtpState :=
  ogsGtpXactCommit s s11Xact env.sendto

end

/-! ## The events of the gateway -/

inductive SgwEvent
  | s5cMessage (env : SgwEnv) (sess : Option SgwSess) (teid : UInt32) (sqn : Octets4)
      (message : S5cMessage)
  | s11Message (env : SgwEnv) (sgwUe : Option SgwUe) (teid : UInt32) (sqn : Octets4)
      (message : S11Message)
  | loDldataNoti (env : SgwEnv) (sgwUe : SgwUe)
  | responseTimeout (i : XactIdx) (sendto : Bool)
  | holdingTimeout (i : XactIdx)
  deriving DecidableEq

/-- Whether a message was passed to its handler, and with which transaction. -/
inductive SgwOut
  | handled (i : XactIdx)
  | discarded
  | done
  deriving DecidableEq

def sgwStateOperational [Ogslib] (s : GtpState) : SgwEvent → XactM (GtpState × SgwOut)
  | .s11Message env sgwUe teid sqn message => do
    Fallible.assert .sgwHandler (env.parsed = true)
    let sgwUe ← Fallible.assertSome .sgwHandler sgwUe
    let (s, rv, xact) ← ogsGtpXactReceive s env.remoteCreate sgwUe.gnode
      ⟨message.type, teid, sqn⟩ env.sendto
    if rv ≠ .ok then return (s, .discarded)
    else
      let s ← match message with
        | .createBearerResponse req => sgwS11HandleCreateBearerResponse s env xact sqn req
        | .updateBearerResponse req => sgwS11HandleUpdateBearerResponse s env xact sqn req
        | .deleteBearerResponse req => sgwS11HandleDeleteBearerResponse s env xact sqn req
        | .downlinkDataNotificationAcknowledge =>
          sgwS11HandleDownlinkDataNotificationAck s env xact
      return (s, .handled xact)
  | .s5cMessage env sess teid sqn message => do
    Fallible.assert .sgwHandler (env.parsed = true)
    let sess ← Fallible.assertSome .sgwHandler sess
    let (s, rv, xact) ← ogsGtpXactReceive s env.remoteCreate sess.gnode
      ⟨message.type, teid, sqn⟩ env.sendto
    if rv ≠ .ok then return (s, .discarded)
    else
      let s ← match message with
        | .createBearerRequest req => sgwS5cHandleCreateBearerRequest s env xact sess sqn req
        | .updateBearerRequest req => sgwS5cHandleUpdateBearerRequest s env xact sess sqn req
        | .deleteBearerRequest req => sgwS5cHandleDeleteBearerRequest s env xact sess sqn req
      return (s, .handled xact)
  | .loDldataNoti env sgwUe => do return (← sgwS11HandleLoDldataNotification s env sgwUe, .done)
  | .responseTimeout i sendto => do return (← NextEpc.responseTimeout s i sendto, .done)
  | .holdingTimeout i => do return (← NextEpc.holdingTimeout s i, .done)

/-- The slots that `ogs_pool_alloc` returns during one event are free, and not the same. -/
def SgwEnv.Free (env : SgwEnv) (s : GtpState) : Prop :=
  (∀ i, env.remoteCreate.slot = some i → s.pool i = none) ∧
    ∀ i, env.localCreate.slot = some i → s.pool i = none ∧ env.remoteCreate.slot ≠ some i

def SgwEvent.Enabled (s : GtpState) : SgwEvent → Prop
  | s5cMessage env _ _ _ _ => env.Free s
  | s11Message env _ _ _ _ => env.Free s
  | loDldataNoti env _ => env.Free s
  | responseTimeout i _ => ∃ xact, s.pool i = some xact ∧ xact.tmResponse = true
  | holdingTimeout i => ∃ xact, s.pool i = some xact ∧ xact.tmHolding = true

/-- One event that is processed completely. -/
def SgwStep [Ogslib] (s : GtpState) (label : SgwEvent × SgwOut) (t : GtpState) : Prop :=
  label.1.Enabled s ∧ sgwStateOperational s label.1 = .ok (t, label.2)

/-- An answer of the MME to a bearer request. -/
def SgwEvent.IsAnswer : SgwEvent → Bool
  | s11Message _ _ _ _ .downlinkDataNotificationAcknowledge => false
  | s11Message .. => true
  | _ => false

end NextEpc

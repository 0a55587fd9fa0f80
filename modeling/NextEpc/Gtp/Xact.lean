import Mathlib
import NextEpc.Lib.Octets
import NextEpc.Ogslib

/-!
# GTPv2-C transactions

The transaction layer of `lib/gtp/xact.c`. A transaction counts the steps of one
procedure (1: initial, 2: triggered, 3: triggered reply) and keeps for each step the
message type and, for a step sent by this node, the packet. Message types and sequence
numbers come from the peer; which step a message is depends on both.

Each function bears the name it has in C. A transaction is referred to by its slot in the
pool and a peer by the number of its `ogs_gtp_node_t`. A timer callback is called after its
timer has fired, when the timer is no longer running.
-/

namespace NextEpc

abbrev XactIdx := Nat

abbrev NodeId := Nat

inductive XactSite
  | localCreate
  | remoteCreate
  | updateTx
  | updateRx
  | commit
  | retransmit
  | findByXid
  | associate
  | deassociate
  | sgwHandler
  deriving DecidableEq, Repr

abbrev XactM := Fallible XactSite

def gtpMinXactId : UInt32 := 1

/-- `GTP_MAX_XACT_ID`, also the mask that tells the two sequence-number spaces apart. -/
def gtpMaxXactId : UInt32 := 0x800000

def gtpT3ResponseRetryCount : UInt8 := 3

def gtpT3DuplicatedRetryCount : UInt8 := 1

/-! ## Message types -/

namespace GtpType

def createSessionRequest : UInt8 := 32
def createSessionResponse : UInt8 := 33
def modifyBearerRequest : UInt8 := 34
def modifyBearerResponse : UInt8 := 35
def deleteSessionRequest : UInt8 := 36
def deleteSessionResponse : UInt8 := 37
def modifyBearerCommand : UInt8 := 64
def modifyBearerFailureIndication : UInt8 := 65
def deleteBearerCommand : UInt8 := 66
def deleteBearerFailureIndication : UInt8 := 67
def bearerResourceCommand : UInt8 := 68
def bearerResourceFailureIndication : UInt8 := 69
def createBearerRequest : UInt8 := 95
def createBearerResponse : UInt8 := 96
def updateBearerRequest : UInt8 := 97
def updateBearerResponse : UInt8 := 98
def deleteBearerRequest : UInt8 := 99
def deleteBearerResponse : UInt8 := 100
def createIndirectDataForwardingTunnelRequest : UInt8 := 166
def createIndirectDataForwardingTunnelResponse : UInt8 := 167
def deleteIndirectDataForwardingTunnelRequest : UInt8 := 168
def deleteIndirectDataForwardingTunnelResponse : UInt8 := 169
def releaseAccessBearersRequest : UInt8 := 170
def releaseAccessBearersResponse : UInt8 := 171
def downlinkDataNotification : UInt8 := 176
def downlinkDataNotificationAcknowledge : UInt8 := 177

def initials : List UInt8 :=
  [createSessionRequest, modifyBearerRequest, deleteSessionRequest, modifyBearerCommand,
    deleteBearerCommand, bearerResourceCommand, releaseAccessBearersRequest,
    createIndirectDataForwardingTunnelRequest, deleteIndirectDataForwardingTunnelRequest,
    downlinkDataNotification]

def bearerRequests : List UInt8 :=
  [createBearerRequest, updateBearerRequest, deleteBearerRequest]

def finals : List UInt8 :=
  [createSessionResponse, modifyBearerResponse, deleteSessionResponse,
    modifyBearerFailureIndication, deleteBearerFailureIndication,
    bearerResourceFailureIndication, createBearerResponse, updateBearerResponse,
    deleteBearerResponse, releaseAccessBearersResponse,
    createIndirectDataForwardingTunnelResponse, deleteIndirectDataForwardingTunnelResponse,
    downlinkDataNotificationAcknowledge]

end GtpType

/-! ## Transactions -/

inductive XactStage
  | unknown
  | initial
  | intermediate
  | final
  deriving DecidableEq, Repr

inductive Originator
  | localOriginator
  | remoteOriginator
  deriving DecidableEq, Repr

/-- The fields of `ogs_gtp_header_t` that the transaction layer reads; the sequence number
is kept as its four octets on the wire. -/
structure GtpHeader where
  type : UInt8
  teid : UInt32
  sqn : Octets4
  deriving DecidableEq

structure SeqEntry where
  type : UInt8 := 0
  pkbuf : Option Bytes := none
  deriving DecidableEq, Repr

/-- `ogs_gtp_xact_t`. A timer is represented by whether it is running. -/
structure GtpXact where
  org : Originator
  xid : UInt32
  gnode : NodeId
  step : Nat := 0
  seq : Fin 3 → SeqEntry := fun _ => {}
  tmResponse : Bool := false
  responseRcount : UInt8 := gtpT3ResponseRetryCount
  tmHolding : Bool := false
  holdingRcount : UInt8 := gtpT3DuplicatedRetryCount
  assocXact : Option XactIdx := none
  deriving DecidableEq

def ogsGtpXidToSqn (xid : UInt32) : Octets4 := Octets.htonl (xid <<< 8)

def ogsGtpSqnToXid (sqn : Octets4) : UInt32 := Octets.ntohl sqn >>> 8

def ogsGtpXactGetStage (type : UInt8) (xid : UInt32) : XactStage :=
  if type ∈ GtpType.initials then .initial
  else if type ∈ GtpType.bearerRequests then
    if xid &&& gtpMaxXactId ≠ 0 then .intermediate else .initial
  else if type ∈ GtpType.finals then .final
  else .unknown

namespace GtpXact

/-- A transaction whose memory has just been cleared and filled in. -/
def fresh (org : Originator) (xid : UInt32) (gnode : NodeId) : GtpXact :=
  { org := org, xid := xid, gnode := gnode }

def last (xact : GtpXact) : XactM SeqEntry :=
  match xact.step with
  | 0 => .error .outOfBounds
  | k + 1 => if h : k < 3 then .ok (xact.seq ⟨k, h⟩) else .error .outOfBounds

/-- Write `xact->seq[xact->step]` and count the step. -/
def record (xact : GtpXact) (write : SeqEntry → SeqEntry) : XactM GtpXact :=
  if h : xact.step < 3 then
    .ok { xact with
      seq := Function.update xact.seq ⟨xact.step, h⟩ (write (xact.seq ⟨xact.step, h⟩))
      step := xact.step + 1 }
  else .error .outOfBounds

end GtpXact

/-- The GTPv2-C header that `ogs_gtp_xact_update_tx` pushes in front of a payload:
version 2 with a TEID, the type, the length after the first four octets, the TEID and
the sequence number. -/
def gtpv2cHeader (hdesc : GtpHeader) (xid : UInt32) (payload : Bytes) : Bytes :=
  [0x48, hdesc.type] ++ Octets.htons (payload.length + 12 - 4) ++
    (Octets.htonl hdesc.teid).toList ++ (ogsGtpXidToSqn xid).toList

def ogsGtpXactUpdateTx (xact : GtpXact) (hdesc : GtpHeader) (pkbuf : Bytes) : XactM GtpXact := do
  match xact.org, ogsGtpXactGetStage hdesc.type xact.xid with
  | .localOriginator, .initial => Fallible.assert .updateTx (xact.step = 0)
  | .localOriginator, .final => Fallible.assert .updateTx (xact.step = 2)
  | .remoteOriginator, .intermediate => Fallible.assert .updateTx (xact.step = 1)
  | .remoteOriginator, .final => Fallible.assert .updateTx (xact.step = 1)
  | _, _ => throw (.assert .updateTx)
  -- Save Message type and packet of this step
  xact.record fun _ =>
    { type := hdesc.type, pkbuf := some (gtpv2cHeader hdesc xact.xid pkbuf ++ pkbuf) }

namespace GtpXact

/-- The type of the message that opened the procedure. -/
def initialType (xact : GtpXact) : UInt8 := (xact.seq 0).type

/-- The type of the message that was triggered by the first one. -/
def triggeredType (xact : GtpXact) : UInt8 := (xact.seq 1).type

/-- A local transaction that has made its request. -/
def requested (xid : UInt32) (gnode : NodeId) (hdesc : GtpHeader) (pkbuf : Bytes) :
    GtpXact :=
  { GtpXact.fresh .localOriginator xid gnode with
    seq := Function.update (fun _ => {}) 0
      ⟨hdesc.type, some (gtpv2cHeader hdesc xid pkbuf ++ pkbuf)⟩
    step := 1 }

/-- The message is new: stop waiting for it and save its type. -/
def accept (xact : GtpXact) (type : UInt8) : XactM (Rv × GtpXact × List Bytes) := do
  let xact ← { xact with tmResponse := false }.record fun entry => { entry with type := type }
  return (.ok, xact, [])

/-- The message is a duplicate: if the step after it has been sent, send it again. -/
def duplicated (xact : GtpXact) (pkbuf : Option Bytes) (sendto : Bool) :
    XactM (Rv × GtpXact × List Bytes) :=
  match pkbuf with
  | some pkbuf => do
    Fallible.assert .updateRx (sendto = true)
    return (.retry, { xact with tmHolding := true }, [pkbuf])
  | none => return (.retry, xact, [])

end GtpXact

/-- `ogs_gtp_xact_update_rx`: what the caller is told, the transaction and the packets
sent to its peer. `sendto` is whether `ogs_gtp_sendto` succeeds. -/
def ogsGtpXactUpdateRx (xact : GtpXact) (type : UInt8) (sendto : Bool) :
    XactM (Rv × GtpXact × List Bytes) :=
  match xact.org, ogsGtpXactGetStage type xact.xid with
  | .localOriginator, .intermediate =>
    if (xact.seq 1).type = type then do
      Fallible.assert .updateRx (xact.step = 2 ∨ xact.step = 3)
      xact.duplicated (xact.seq 2).pkbuf sendto
    else do
      Fallible.assert .updateRx (xact.step = 1)
      { xact with tmHolding := true }.accept type
  | .localOriginator, .final => do
    Fallible.assert .updateRx (xact.step = 1)
    xact.accept type
  | .remoteOriginator, .initial =>
    if (xact.seq 0).type = type then do
      Fallible.assert .updateRx (xact.step = 1 ∨ xact.step = 2)
      xact.duplicated (xact.seq 1).pkbuf sendto
    else do
      Fallible.assert .updateRx (xact.step = 0)
      { xact with tmHolding := true }.accept type
  | .remoteOriginator, .final => do
    Fallible.assert .updateRx (xact.step = 2)
    xact.accept type
  | _, _ => throw (.assert .updateRx)

/-- The switch of `ogs_gtp_xact_commit`: the transaction whose last packet is to be sent,
or nothing if the transaction is to be deleted. -/
def commitStage (xact : GtpXact) : XactM (Option GtpXact) := do
  let entry ← xact.last
  match xact.org, ogsGtpXactGetStage entry.type xact.xid with
  | .localOriginator, .initial =>
    Fallible.assert .commit (xact.step = 1)
    return some { xact with tmResponse := true }
  | .localOriginator, .final =>
    Fallible.assert .commit (xact.step = 2 ∨ xact.step = 3)
    return if xact.step = 2 then none else some xact
  | .remoteOriginator, .intermediate =>
    Fallible.assert .commit (xact.step = 2)
    return some { xact with tmResponse := true }
  | .remoteOriginator, .final =>
    Fallible.assert .commit (xact.step = 2 ∨ xact.step = 3)
    return if xact.step = 3 then none else some xact
  | _, _ => throw (.assert .commit)

/-! ## The transaction table of a node -/

/-- The pool, the counter `g_xact_id`, the two lists of every peer and the packets that
have been handed to the socket, oldest first. -/
structure GtpState where
  pool : XactIdx → Option GtpXact
  gXactId : UInt32
  xactList : Originator → NodeId → List XactIdx
  sent : List (NodeId × Bytes)

namespace GtpState

def init : GtpState where
  pool _ := none
  gXactId := 0
  xactList _ _ := []
  sent := []

def find (s : GtpState) (i : XactIdx) : XactM GtpXact :=
  match s.pool i with
  | some xact => .ok xact
  | none => .error .dangling

def set (s : GtpState) (i : XactIdx) (xact : GtpXact) : GtpState :=
  { s with pool := Function.update s.pool i (some xact) }

def sendto (s : GtpState) (gnode : NodeId) (pkbufs : List Bytes) : GtpState :=
  { s with sent := s.sent ++ pkbufs.map (gnode, ·) }

/-- Put a new transaction into its slot and into the list of its peer. -/
def insert [Ogslib] (s : GtpState) (i : XactIdx) (xact : GtpXact) : GtpState :=
  { s with
    pool := Function.update s.pool i (some xact)
    xactList := Function.update s.xactList xact.org
      (Function.update (s.xactList xact.org) xact.gnode
        (Ogslib.listAdd (s.xactList xact.org xact.gnode) i)) }

/-- Take a transaction out of its slot and of the list of its peer. -/
def remove (s : GtpState) (i : XactIdx) (xact : GtpXact) : GtpState :=
  { s with
    pool := Function.update s.pool i none
    xactList := Function.update s.xactList xact.org
      (Function.update (s.xactList xact.org) xact.gnode
        ((s.xactList xact.org xact.gnode).erase i)) }

variable {s : GtpState} {i : XactIdx} {x : GtpXact}

theorem find_eq_ok : s.find i = .ok x ↔ s.pool i = some x := by
  unfold find
  cases s.pool i <;> simp

@[simp] theorem set_pool (k : XactIdx) :
    (s.set i x).pool k = if k = i then some x else s.pool k := by
  simp [set, Function.update_apply]

@[simp] theorem sendto_pool (n : NodeId) (ps : List Bytes) : (s.sendto n ps).pool = s.pool := rfl

@[simp] theorem insert_pool [Ogslib] (k : XactIdx) :
    (s.insert i x).pool k = if k = i then some x else s.pool k := by
  simp [insert, Function.update_apply]

@[simp] theorem remove_pool (k : XactIdx) :
    (s.remove i x).pool k = if k = i then none else s.pool k := by
  simp [remove, Function.update_apply]

@[simp] theorem set_xactList : (s.set i x).xactList = s.xactList := rfl

@[simp] theorem sendto_xactList (n : NodeId) (ps : List Bytes) :
    (s.sendto n ps).xactList = s.xactList := rfl

theorem insert_xactList [Ogslib] (org : Originator) (n : NodeId) :
    (s.insert i x).xactList org n =
      if org = x.org ∧ n = x.gnode then s.xactList org n ++ [i] else s.xactList org n := by
  simp only [insert, Function.update_apply, Ogslib.listAdd_eq]
  by_cases ho : org = x.org
  · subst ho
    by_cases hn : n = x.gnode
    · subst hn; simp
    · simp [hn]
  · simp [ho]

theorem remove_xactList (org : Originator) (n : NodeId) :
    (s.remove i x).xactList org n =
      if org = x.org ∧ n = x.gnode then (s.xactList org n).erase i else s.xactList org n := by
  simp only [remove, Function.update_apply]
  by_cases ho : org = x.org
  · subst ho
    by_cases hn : n = x.gnode
    · subst hn; simp
    · simp [hn]
  · simp [ho]

@[simp] theorem set_gXactId : (s.set i x).gXactId = s.gXactId := rfl

@[simp] theorem sendto_gXactId (n : NodeId) (ps : List Bytes) :
    (s.sendto n ps).gXactId = s.gXactId := rfl

@[simp] theorem insert_gXactId [Ogslib] : (s.insert i x).gXactId = s.gXactId := rfl

@[simp] theorem remove_gXactId : (s.remove i x).gXactId = s.gXactId := rfl

end GtpState

/-- What `ogs_pool_alloc` and the two calls of `ogs_timer_add` return. -/
structure CreateEnv where
  slot : Option XactIdx
  tmResponse : Bool := true
  tmHolding : Bool := true
  deriving DecidableEq

def ogsGtpXactLocalCreate [Ogslib] (s : GtpState) (env : CreateEnv) (gnode : NodeId)
    (hdesc : GtpHeader) (pkbuf : Bytes) : XactM (GtpState × XactIdx) := do
  let i ← Fallible.assertSome .localCreate env.slot
  let xid := Ogslib.nextId s.gXactId gtpMinXactId gtpMaxXactId
  Fallible.assert .localCreate (env.tmResponse = true)
  Fallible.assert .localCreate (env.tmHolding = true)
  let xact ← ogsGtpXactUpdateTx (.fresh .localOriginator xid gnode) hdesc pkbuf
  return ({ s with gXactId := xid }.insert i xact, i)

def ogsGtpXactRemoteCreate [Ogslib] (s : GtpState) (env : CreateEnv) (gnode : NodeId)
    (sqn : Octets4) : XactM (GtpState × XactIdx) := do
  let i ← Fallible.assertSome .remoteCreate env.slot
  Fallible.assert .remoteCreate (env.tmResponse = true)
  Fallible.assert .remoteCreate (env.tmHolding = true)
  return (s.insert i (.fresh .remoteOriginator (ogsGtpSqnToXid sqn) gnode), i)

def xactListOf (type : UInt8) (xid : UInt32) : Option Originator :=
  match ogsGtpXactGetStage type xid with
  | .initial => some .remoteOriginator
  | .intermediate => some .localOriginator
  | .final => some (if xid &&& gtpMaxXactId ≠ 0 then .remoteOriginator else .localOriginator)
  | .unknown => none

def GtpState.lookup (s : GtpState) (org : Originator) (gnode : NodeId) (xid : UInt32) :
    Option XactIdx :=
  (s.xactList org gnode).find? fun i => (s.pool i).any fun xact => xact.xid = xid

def ogsGtpXactFindByXid (s : GtpState) (gnode : NodeId) (type : UInt8) (xid : UInt32) :
    XactM (Option XactIdx) := do
  let org ← Fallible.assertSome .findByXid (xactListOf type xid)
  return s.lookup org gnode xid

def ogsGtpXactReceive [Ogslib] (s : GtpState) (env : CreateEnv) (gnode : NodeId)
    (h : GtpHeader) (sendto : Bool) : XactM (GtpState × Rv × XactIdx) := do
  let (s, i) ← match ← ogsGtpXactFindByXid s gnode h.type (ogsGtpSqnToXid h.sqn) with
    | some i => pure (s, i)
    | none => ogsGtpXactRemoteCreate s env gnode h.sqn
  let xact ← s.find i
  let (rv, xact, pkbufs) ← ogsGtpXactUpdateRx xact h.type sendto
  return ((s.set i xact).sendto gnode pkbufs, rv, i)

def ogsGtpXactAssociate (s : GtpState) (i j : XactIdx) : XactM GtpState := do
  let xact1 ← s.find i
  let xact2 ← s.find j
  Fallible.assert .associate (xact1.assocXact = none)
  Fallible.assert .associate (xact2.assocXact = none)
  let s := s.set i { xact1 with assocXact := some j }
  let xact2 ← s.find j
  return s.set j { xact2 with assocXact := some i }

def ogsGtpXactDeassociate (s : GtpState) (i j : XactIdx) : XactM GtpState := do
  let xact1 ← s.find i
  let xact2 ← s.find j
  Fallible.assert .deassociate (xact1.assocXact ≠ none)
  Fallible.assert .deassociate (xact2.assocXact ≠ none)
  let s := s.set i { xact1 with assocXact := none }
  let xact2 ← s.find j
  return s.set j { xact2 with assocXact := none }

/-- `ogs_gtp_xact_delete`. The packets and the timers go with the transaction. -/
def ogsGtpXactDelete (s : GtpState) (i : XactIdx) : XactM GtpState := do
  let xact ← s.find i
  let s ← match xact.assocXact with
    | some j => ogsGtpXactDeassociate s i j
    | none => pure s
  return s.remove i xact

def ogsGtpXactDeleteAll (s : GtpState) (gnode : NodeId) : XactM GtpState := do
  let s ← (s.xactList .localOriginator gnode).foldlM ogsGtpXactDelete s
  (s.xactList .remoteOriginator gnode).foldlM ogsGtpXactDelete s

def ogsGtpXactCommit (s : GtpState) (i : XactIdx) (sendto : Bool) : XactM GtpState := do
  let xact ← s.find i
  match ← commitStage xact with
  | none => ogsGtpXactDelete s i
  | some xact =>
    let entry ← xact.last
    let pkbuf ← Fallible.assertSome .commit entry.pkbuf
    Fallible.assert .commit (sendto = true)
    return (s.set i xact).sendto xact.gnode [pkbuf]

def responseTimeout (s : GtpState) (i : XactIdx) (sendto : Bool) : XactM GtpState := do
  let xact ← s.find i
  let entry ← xact.last
  let xact := { xact with tmResponse := false, responseRcount := xact.responseRcount - 1 }
  if xact.responseRcount > 0 then
    let xact := { xact with tmResponse := true }
    let pkbuf ← Fallible.assertSome .retransmit entry.pkbuf
    if sendto then return (s.set i xact).sendto xact.gnode [pkbuf]
    else ogsGtpXactDelete (s.set i xact) i
  else ogsGtpXactDelete (s.set i xact) i

def holdingTimeout (s : GtpState) (i : XactIdx) : XactM GtpState := do
  let xact ← s.find i
  let _ ← xact.last
  let xact := { xact with tmHolding := false, holdingRcount := xact.holdingRcount - 1 }
  if xact.holdingRcount > 0 then return s.set i { xact with tmHolding := true }
  else ogsGtpXactDelete (s.set i xact) i

end NextEpc

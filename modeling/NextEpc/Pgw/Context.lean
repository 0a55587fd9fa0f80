import NextEpc.Gtp.Xact
import NextEpc.Gx.ChargingRule
import NextEpc.Pgw.UeIp

/-!
# Sessions, bearers and packet filters

`pgw-context.c`: a session has a list of bearers, of which the first is the default bearer, and a
bearer a list of packet filters. All three come from pools that keep what is in a slot. The part
of a session that has to do with addresses is in `Pgw`; here is the rest of its slot.
-/

namespace NextEpc

abbrev PgwBearerId := Nat

abbrev PgwPfId := Nat

/-! ## Records -/

/-- Four words of an address and of its mask, in network byte order. -/
structure PgwIp where
  addr : Vector UInt32 4
  mask : Vector UInt32 4
  deriving DecidableEq, Repr

structure PgwPort where
  low : UInt16
  high : UInt16
  deriving DecidableEq, Repr

/-- `pgw_rule_t` -/
structure PgwRule where
  proto : UInt8
  ipv4Local : Bool
  ipv4Remote : Bool
  ipv6Local : Bool
  ipv6Remote : Bool
  ipLocal : PgwIp
  ipRemote : PgwIp
  portLocal : PgwPort
  portRemote : PgwPort
  deriving DecidableEq, Repr

/-- `pgw_pf_t` -/
structure PgwPfRecord where
  direction : UInt8
  identifier : UInt8
  rule : PgwRule
  bearer : PgwBearerId
  deriving DecidableEq, Repr

/-- `pgw_bearer_t` -/
structure PgwBearerRecord where
  ebi : UInt8
  pgwS5uTeid : UInt32
  sgwS5uTeid : UInt32
  name : Option CString
  qos : Qos
  pfIdentifier : UInt8
  pfList : List PgwPfId
  sess : PgwSessId
  gnode : Option NodeId
  deriving DecidableEq

/-- `ogs_bitrate_t` as an AMBR has it -/
structure Ambr where
  downlink : UInt32
  uplink : UInt32
  deriving DecidableEq

/-- `ogs_tai_t` -/
structure Tai where
  plmnId : Bytes
  tac : UInt16
  deriving DecidableEq

/-- `ogs_e_cgi_t` -/
structure ECgi where
  plmnId : Bytes
  cellId : UInt32
  deriving DecidableEq

/-- What `pgw_sess_t` has besides the addresses. The QoS and the AMBR are those of `pdn`. -/
structure PgwSessRecord where
  pgwS5cTeid : UInt32
  sgwS5cTeid : UInt32
  gxSid : Option CString
  imsi : Bytes
  qci : UInt8
  arp : Arp
  ambr : Ambr
  tai : Tai
  eCgi : ECgi
  bearerList : List PgwBearerId
  gnode : Option NodeId
  deriving DecidableEq

/-! The memory of pools that were never used. -/

def PgwIp.blank : PgwIp := ⟨Vector.replicate 4 0, Vector.replicate 4 0⟩

def PgwRule.blank : PgwRule :=
  ⟨0, false, false, false, false, .blank, .blank, ⟨0, 0⟩, ⟨0, 0⟩⟩

def PgwPfRecord.blank : PgwPfRecord := ⟨0, 0, .blank, 0⟩

def Qos.blank : Qos := ⟨0, ⟨0, 0, 0⟩, ⟨0, 0⟩, ⟨0, 0⟩⟩

def PgwBearerRecord.blank : PgwBearerRecord := ⟨0, 0, 0, none, .blank, 0, [], 0, none⟩

def PgwSessRecord.blank : PgwSessRecord :=
  ⟨0, 0, none, [], 0, ⟨0, 0, 0⟩, ⟨0, 0⟩, ⟨[0, 0, 0], 0⟩, ⟨[0, 0, 0], 0⟩, [], none⟩

/-! What is written to a record when it is added. -/

def PgwSessRecord.add (m : PgwSessRecord) (pgwS5cTeid : UInt32) (imsi : Bytes) : PgwSessRecord :=
  { m with gnode := none, pgwS5cTeid := pgwS5cTeid, imsi := imsi, bearerList := [] }

def PgwBearerRecord.add (m : PgwBearerRecord) (pgwS5uTeid : UInt32) (sess : PgwSessId) :
    PgwBearerRecord :=
  { m with name := none, pfList := [], pgwS5uTeid := pgwS5uTeid, sess := sess, gnode := none }

/-- The identifier has 4 bits. -/
def PgwPfRecord.add (m : PgwPfRecord) (identifier : UInt8) (bearer : PgwBearerId) : PgwPfRecord :=
  { m with identifier := identifier % 16, bearer := bearer }

/-- `OGS_NEXT_ID(pf_identifier, 1, 15)` -/
def nextPfIdentifier [Ogslib] (id : UInt8) : UInt8 := (Ogslib.nextId id.toUInt32 1 15).toUInt8

theorem nextPfIdentifier_eq [Ogslib] (id : UInt8) :
    nextPfIdentifier id = if id = 15 then 1 else id + 1 := by
  rw [nextPfIdentifier]
  split
  next hmax =>
    rw [hmax]
    exact congrArg UInt32.toUInt8 (Ogslib.nextId_max 1 15)
  next hmax =>
    have hne : id.toUInt32 ≠ 15 := fun heq => hmax (by
      rw [← UInt8.toUInt8_toUInt32 id, heq]
      rfl)
    rw [Ogslib.nextId_succ _ _ _ hne, UInt32.toUInt8_add, UInt8.toUInt8_toUInt32]
    rfl

/-! ## Operations -/

/-- The pools, and the list of the sessions. -/
structure PgwContext extends Pgw where
  sessMem : PgwSessId → PgwSessRecord
  bearers : Pool PgwBearerRecord
  pfs : Pool PgwPfRecord
  sessList : List PgwSessId

namespace PgwContext

def initial (arrays : List (List PgwUeIp)) : PgwContext where
  toPgw := Pgw.init arrays
  sessMem _ := .blank
  bearers := Pool.unused fun _ => .blank
  pfs := Pool.unused fun _ => .blank
  sessList := []

section
variable (cfg : PgwConfig) (s : PgwContext)

def setSess (sess : PgwSessId) (f : PgwSessRecord → PgwSessRecord) : PgwContext :=
  { s with sessMem := Function.update s.sessMem sess (f (s.sessMem sess)) }

def setBearer (bearer : PgwBearerId) (f : PgwBearerRecord → PgwBearerRecord) : PgwContext :=
  { s with bearers := s.bearers.modify bearer f }

/-- The pool gives out a free slot, here `pf`. The precedence is not looked at. -/
def pgwPfAdd [Ogslib] (pf : PgwPfId) (bearer : PgwBearerId) (_precedence : UInt32) :
    Option PgwContext :=
  if s.pfs.live pf = false then
    let identifier := nextPfIdentifier (s.bearers.mem bearer).pfIdentifier
    some { s with
      pfs := (s.pfs.alloc pf).modify pf fun m => m.add identifier bearer
      bearers := s.bearers.modify bearer fun m =>
        { m with pfIdentifier := identifier, pfList := m.pfList ++ [pf] } }
  else none

def pgwPfRemove (pf : PgwPfId) : PgwContext :=
  { s with
    bearers := s.bearers.modify (s.pfs.mem pf).bearer fun m =>
      { m with pfList := m.pfList.erase pf }
    pfs := s.pfs.free pf }

def pgwPfRemoveAll (bearer : PgwBearerId) : PgwContext :=
  (s.bearers.mem bearer).pfList.foldl pgwPfRemove s

def pgwBearerAdd (bearer : PgwBearerId) (sess : PgwSessId) : Option PgwContext :=
  if IsPoolIndex bearer ∧ s.bearers.live bearer = false then
    some { s with
      bearers := (s.bearers.alloc bearer).modify bearer fun m => m.add (UInt32.ofNat bearer) sess
      sessMem := Function.update s.sessMem sess { s.sessMem sess with
        bearerList := (s.sessMem sess).bearerList ++ [bearer] } }
  else none

def pgwBearerRemove (bearer : PgwBearerId) : PgwContext :=
  let s := s.setSess (s.bearers.mem bearer).sess fun m =>
    { m with bearerList := m.bearerList.erase bearer }
  let s := s.pgwPfRemoveAll bearer
  { s with bearers := s.bearers.free bearer }

def pgwBearerRemoveAll (sess : PgwSessId) : PgwContext :=
  (s.sessMem sess).bearerList.foldl pgwBearerRemove s

/-- The slots are `sess` and `bearer`, and the addresses those at `index4` and `index6`. -/
def pgwSessAdd (sess : PgwSessId) (bearer : PgwBearerId) (imsi apn : Bytes) (pdnType ebi : UInt8)
    (index4 index6 : Nat) : Option PgwContext :=
  if IsPoolIndex sess ∧ s.sess.live sess = false then do
    let s := s.setSess sess fun m => m.add (UInt32.ofNat sess) imsi
    let s ← s.pgwBearerAdd bearer sess
    let s := s.setBearer bearer fun m => { m with ebi := ebi }
    let pgw ← (s.toPgw.pgwSessAdd cfg sess apn pdnType index4 index6).toOption
    some { s with toPgw := pgw, sessList := s.sessList ++ [sess] }
  else none

def pgwSessRemove (sess : PgwSessId) : PgwContext :=
  let s := { s with
    toPgw := (s.toPgw.held sess).foldl Pgw.pgwUeIpFree s.toPgw
    sessList := s.sessList.erase sess }
  let s := s.pgwBearerRemoveAll sess
  { s with toPgw := { s.toPgw with sess := s.sess.free sess } }

/-! ## Searching -/

/-- `ogs_pool_find`, and `pgw_bearer_find` -/
def pgwBearerFindByPgwS5uTeid (teid : UInt32) : Option PgwBearerId :=
  if s.bearers.live teid.toNat = true then some teid.toNat else none

def pgwDefaultBearerInSess (sess : PgwSessId) : Option PgwBearerId :=
  (s.sessMem sess).bearerList.head?

def pgwBearerFindByEbi (sess : PgwSessId) (ebi : UInt8) : Option PgwBearerId :=
  (s.sessMem sess).bearerList.find? fun bearer => (s.bearers.mem bearer).ebi = ebi

def pgwBearerFindByName (sess : PgwSessId) (name : CString) : Option PgwBearerId :=
  (s.sessMem sess).bearerList.find? fun bearer => (s.bearers.mem bearer).name = some name

/-- The default bearer has the QoS of the PDN connection. -/
def pgwBearerFindByQciArp (sess : PgwSessId) (qci : UInt8) (arp : Arp) : Option PgwBearerId :=
  match (s.sessMem sess).bearerList with
  | [] => none
  | defaultBearer :: bearers =>
    if (s.sessMem sess).qci = qci ∧ (s.sessMem sess).arp = arp then some defaultBearer
    else bearers.find? fun bearer =>
      (s.bearers.mem bearer).qos.qci = qci ∧ (s.bearers.mem bearer).qos.arp = arp

/-- An address of a session. -/
def address (ueIp : PgwUeIpId) : Vector UInt32 4 := ((s.ueIp ueIp.array).mem ueIp.index).addr

end
end PgwContext
end NextEpc

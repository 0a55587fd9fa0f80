import NextEpc.Gtp.Xact
import NextEpc.Lib.Pool

/-!
# The context of the serving gateway

`sgw-context.c`: UEs, sessions, bearers and tunnels come from pools that give out a free slot with
its old octets. A session is in the list of its UE, a bearer in the list of its session and a
tunnel in the list of its bearer. TEIDs are made of the indices of the slots.
-/

namespace NextEpc

abbrev SgwUeId := Nat

abbrev SgwSessId := Nat

abbrev SgwBearerId := Nat

abbrev SgwTunnelId := Nat

/-! ## Records -/

/-- A G-PDU in a packet buffer. Each packet that is received gets a number of its own. -/
structure SgwPkbuf where
  number : Nat
  type : UInt8
  teid : UInt32
  payload : Bytes
  deriving DecidableEq, Repr

/-- `sgw_ue_t`. The two flags of `state` are fields of their own. -/
structure SgwUeRecord where
  sgwS11Teid : UInt32
  mmeS11Teid : UInt32
  imsi : Bytes
  s1uInactive : Bool
  dlNotiSent : Bool
  sessList : List SgwSessId
  gnode : Option NodeId
  deriving DecidableEq, Repr

/-- `sgw_sess_t` -/
structure SgwSessRecord where
  sgwS5cTeid : UInt32
  pgwS5cTeid : UInt32
  apn : Bytes
  bearerList : List SgwBearerId
  gnode : Option NodeId
  sgwUe : SgwUeId
  deriving DecidableEq, Repr

/-- `sgw_bearer_t`. Of `buffered_pkts` the first `num_buffered_pkt` elements are kept. -/
structure SgwBearerRecord where
  ebi : UInt8
  bufferedPkts : List SgwPkbuf
  tunnelList : List SgwTunnelId
  sess : SgwSessId
  sgwUe : SgwUeId
  deriving DecidableEq, Repr

/-- `sgw_tunnel_t` -/
structure SgwTunnelRecord where
  interfaceType : UInt8
  localTeid : UInt32
  remoteTeid : UInt32
  bearer : SgwBearerId
  gnode : Option NodeId
  deriving DecidableEq, Repr

/-! The memory of pools that were never used. -/

def SgwUeRecord.blank : SgwUeRecord := ⟨0, 0, [], false, false, [], none⟩

def SgwSessRecord.blank : SgwSessRecord := ⟨0, 0, [], [], none, 0⟩

def SgwBearerRecord.blank : SgwBearerRecord := ⟨0, [], [], 0, 0⟩

def SgwTunnelRecord.blank : SgwTunnelRecord := ⟨0, 0, 0, 0, none⟩

/-- `OGS_GTP_F_TEID_S1_U_SGW_GTP_U` -/
def s1uSgwGtpU : UInt8 := 1

/-- `OGS_GTP_F_TEID_S5_S8_SGW_GTP_U` -/
def s5s8SgwGtpU : UInt8 := 4

/-- `OGS_GTP_F_TEID_SGW_GTP_U_FOR_DL_DATA_FORWARDING` -/
def sgwGtpUForDlDataForwarding : UInt8 := 23

/-- `OGS_GTP_F_TEID_SGW_GTP_U_FOR_UL_DATA_FORWARDING` -/
def sgwGtpUForUlDataForwarding : UInt8 := 28

/-- The two types of indirect tunnels. -/
def IsForwarding (type : UInt8) : Prop :=
  type = sgwGtpUForDlDataForwarding ∨ type = sgwGtpUForUlDataForwarding

instance (type : UInt8) : Decidable (IsForwarding type) := inferInstanceAs (Decidable (_ ∨ _))

/-! What is written to a record when it is added. -/

/-- `sgw_ue_add`, and `OGS_SETUP_GTP_NODE` after it. -/
def SgwUeRecord.add (m : SgwUeRecord) (sgwS11Teid : UInt32) (imsi : Bytes) (gnode : NodeId) :
    SgwUeRecord :=
  { m with sgwS11Teid := sgwS11Teid, imsi := imsi, sessList := [], gnode := some gnode }

def SgwSessRecord.add (m : SgwSessRecord) (sgwS5cTeid : UInt32) (apn : Bytes) (sgwUe : SgwUeId) :
    SgwSessRecord :=
  { m with sgwS5cTeid := sgwS5cTeid, apn := apn, sgwUe := sgwUe, gnode := none, bearerList := [] }

def SgwBearerRecord.add (m : SgwBearerRecord) (sgwUe : SgwUeId) (sess : SgwSessId) :
    SgwBearerRecord :=
  { m with sgwUe := sgwUe, sess := sess, tunnelList := [] }

def SgwTunnelRecord.add (m : SgwTunnelRecord) (interfaceType : UInt8) (localTeid : UInt32)
    (bearer : SgwBearerId) : SgwTunnelRecord :=
  { m with interfaceType := interfaceType, localTeid := localTeid, bearer := bearer, gnode := none }

/-! ## Operations -/

/-- The pools, and the packet buffers in use. `fault` says that a buffer was freed which was not
in use. -/
structure SgwContext where
  ues : Pool SgwUeRecord
  sesss : Pool SgwSessRecord
  bearers : Pool SgwBearerRecord
  tunnels : Pool SgwTunnelRecord
  received : Nat
  pkbufs : List Nat
  fault : Bool

/-- `SGW_S5C_INDEX_TO_TEID` -/
def sgwS5cIndexToTeid (index : Nat) : UInt32 := UInt32.ofNat index ||| 0x80000000

namespace SgwContext

def initial : SgwContext where
  ues := Pool.unused fun _ => .blank
  sesss := Pool.unused fun _ => .blank
  bearers := Pool.unused fun _ => .blank
  tunnels := Pool.unused fun _ => .blank
  received := 0
  pkbufs := []
  fault := false

section
variable (s : SgwContext)

/-- `ogs_pkbuf_free` -/
def pkbufFree (pkbuf : SgwPkbuf) : SgwContext :=
  { s with
    pkbufs := s.pkbufs.erase pkbuf.number
    fault := s.fault || decide (pkbuf.number ∉ s.pkbufs) }

/-! Adding takes the slot that `ogs_pool_alloc` returns: a free one. -/

def sgwTunnelAdd (tunnel : SgwTunnelId) (bearer : SgwBearerId) (interfaceType : UInt8) :
    Option SgwContext :=
  if IsPoolIndex tunnel ∧ s.tunnels.live tunnel = false then
    some { s with
      tunnels := (s.tunnels.alloc tunnel).modify tunnel fun m =>
        m.add interfaceType (UInt32.ofNat tunnel) bearer
      bearers := s.bearers.modify bearer fun m =>
        { m with tunnelList := m.tunnelList ++ [tunnel] } }
  else none

def sgwTunnelRemove (tunnel : SgwTunnelId) : SgwContext :=
  { s with
    bearers := s.bearers.modify (s.tunnels.mem tunnel).bearer fun m =>
      { m with tunnelList := m.tunnelList.erase tunnel }
    tunnels := s.tunnels.free tunnel }

def sgwTunnelRemoveAll (bearer : SgwBearerId) : SgwContext :=
  (s.bearers.mem bearer).tunnelList.foldl sgwTunnelRemove s

/-- The record of a bearer is allocated, without its tunnels. -/
def sgwBearerAlloc (bearer : SgwBearerId) (sess : SgwSessId) : SgwContext :=
  { s with
    bearers := (s.bearers.alloc bearer).modify bearer fun m =>
      m.add (s.sesss.mem sess).sgwUe sess }

def sgwBearerAdd (bearer : SgwBearerId) (s1uTunnel s5uTunnel : SgwTunnelId) (sess : SgwSessId) :
    Option SgwContext :=
  if IsPoolIndex bearer ∧ s.bearers.live bearer = false then do
    let s := s.sgwBearerAlloc bearer sess
    let s ← s.sgwTunnelAdd s1uTunnel bearer s1uSgwGtpU
    let s ← s.sgwTunnelAdd s5uTunnel bearer s5s8SgwGtpU
    some { s with
      sesss := s.sesss.modify sess fun m => { m with bearerList := m.bearerList ++ [bearer] } }
  else none

def sgwBearerRemove (bearer : SgwBearerId) : SgwContext :=
  let sess := (s.bearers.mem bearer).sess
  let s := { s with
    sesss := s.sesss.modify sess fun m => { m with bearerList := m.bearerList.erase bearer } }
  let s := s.sgwTunnelRemoveAll bearer
  -- Free the buffered packets
  let s := (s.bearers.mem bearer).bufferedPkts.foldl pkbufFree s
  { s with bearers := s.bearers.free bearer }

def sgwBearerRemoveAll (sess : SgwSessId) : SgwContext :=
  (s.sesss.mem sess).bearerList.foldl sgwBearerRemove s

/-- The record of a session is allocated, without its bearer. -/
def sgwSessAlloc (sess : SgwSessId) (sgwUe : SgwUeId) (apn : Bytes) : SgwContext :=
  { s with
    sesss := (s.sesss.alloc sess).modify sess fun m => m.add (sgwS5cIndexToTeid sess) apn sgwUe }

def sgwSessAdd (sess : SgwSessId) (bearer : SgwBearerId) (s1uTunnel s5uTunnel : SgwTunnelId)
    (sgwUe : SgwUeId) (apn : Bytes) (ebi : UInt8) : Option SgwContext :=
  if IsPoolIndex sess ∧ s.sesss.live sess = false ∧ ebi ≠ 0 then do
    let s := s.sgwSessAlloc sess sgwUe apn
    let s ← s.sgwBearerAdd bearer s1uTunnel s5uTunnel sess
    some { s with
      bearers := s.bearers.modify bearer fun m => { m with ebi := ebi }
      ues := s.ues.modify sgwUe fun m => { m with sessList := m.sessList ++ [sess] } }
  else none

def sgwSessRemove (sess : SgwSessId) : SgwContext :=
  let sgwUe := (s.sesss.mem sess).sgwUe
  let s := { s with
    ues := s.ues.modify sgwUe fun m => { m with sessList := m.sessList.erase sess } }
  let s := s.sgwBearerRemoveAll sess
  { s with sesss := s.sesss.free sess }

def sgwSessRemoveAll (sgwUe : SgwUeId) : SgwContext :=
  (s.ues.mem sgwUe).sessList.foldl sgwSessRemove s

def sgwUeAdd (sgwUe : SgwUeId) (imsi : Bytes) (gnode : NodeId) : Option SgwContext :=
  if IsPoolIndex sgwUe ∧ s.ues.live sgwUe = false ∧ imsi ≠ [] then
    some { s with
      ues := (s.ues.alloc sgwUe).modify sgwUe fun m => m.add (UInt32.ofNat sgwUe) imsi gnode }
  else none

def sgwUeRemove (sgwUe : SgwUeId) : SgwContext :=
  let s := s.sgwSessRemoveAll sgwUe
  { s with ues := s.ues.free sgwUe }

/-! ## Searching -/

/-- `ogs_pool_find`: the slot with the index, if it is allocated. -/
def sgwTunnelFindByTeid (teid : UInt32) : Option SgwTunnelId :=
  if s.tunnels.live teid.toNat = true then some teid.toNat else none

def sgwTunnelFindByInterfaceType (bearer : SgwBearerId) (interfaceType : UInt8) :
    Option SgwTunnelId :=
  (s.bearers.mem bearer).tunnelList.find? fun tunnel =>
    (s.tunnels.mem tunnel).interfaceType = interfaceType

def sgwS1uTunnelInBearer (bearer : SgwBearerId) : Option SgwTunnelId :=
  s.sgwTunnelFindByInterfaceType bearer s1uSgwGtpU

def sgwS5uTunnelInBearer (bearer : SgwBearerId) : Option SgwTunnelId :=
  s.sgwTunnelFindByInterfaceType bearer s5s8SgwGtpU

def sgwBearerFindBySessEbi (sess : SgwSessId) (ebi : UInt8) : Option SgwBearerId :=
  (s.sesss.mem sess).bearerList.find? fun bearer => (s.bearers.mem bearer).ebi = ebi

def sgwBearerFindByUeEbi (sgwUe : SgwUeId) (ebi : UInt8) : Option SgwBearerId :=
  (s.ues.mem sgwUe).sessList.findSome? fun sess => s.sgwBearerFindBySessEbi sess ebi

def sgwSessFindByEbi (sgwUe : SgwUeId) (ebi : UInt8) : Option SgwSessId :=
  (s.sgwBearerFindByUeEbi sgwUe ebi).map fun bearer => (s.bearers.mem bearer).sess

def sgwDefaultBearerInSess (sess : SgwSessId) : Option SgwBearerId :=
  (s.sesss.mem sess).bearerList.head?

end
end SgwContext
end NextEpc

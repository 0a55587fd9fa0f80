import NextEpc.Lib.Trace
import NextEpc.Pgw.Tft

/-!
# Messages to the PGW

What the handlers for messages from the SGW and from the PCRF do to sessions, bearers and packet
filters. `ogs_pool_alloc` gives out any free slot, and an assertion that fails ends the program.
-/

namespace NextEpc

/-- What is sent to the SGW about a bearer. -/
inductive PgwOutput
  | createBearerRequest (bearer : PgwBearerId) (linkedEbi ebi : UInt8) (pgwS5uTeid : UInt32)
    (qos : Qos) (tft : List TftPacketFilter)
  | updateBearerRequest (bearer : PgwBearerId) (ebi : UInt8) (qos : Option Qos)
    (tft : Option (List TftPacketFilter))
  | deleteBearerRequest (bearer : PgwBearerId) (ebi : UInt8)
  deriving DecidableEq

/-- What `pgw_s5c_handle_create_session_request` takes from a request that has all it needs. The
AMBR may be missing. -/
structure PgwSessionRequest where
  imsi : Bytes
  sgwS5cTeid : UInt32
  sgwS5uTeid : UInt32
  gnode : NodeId
  qci : UInt8
  arp : Arp
  ambr : Option Ambr
  tai : Tai
  eCgi : ECgi
  deriving DecidableEq

/-- What `pgw_s5c_handle_create_bearer_response` takes from a response that has all it needs. -/
structure PgwBearerResponse where
  pgwS5uTeid : UInt32
  ebi : UInt8
  sgwS5uTeid : UInt32
  gnode : NodeId
  deriving DecidableEq

/-- `OGS_PCC_RULE_TYPE_INSTALL` -/
def pccRuleTypeInstall : UInt8 := 1

/-- `OGS_PCC_RULE_TYPE_REMOVE` -/
def pccRuleTypeRemove : UInt8 := 2

namespace PgwContext
section
variable [Ogslib] (cfg : PgwConfig) (compile : CString → Option PgwRule) (s : PgwContext)

/-! ## Sessions -/

def pgwS5cHandleCreateSessionRequest (sess : PgwSessId) (req : PgwSessionRequest) :
    Option PgwContext := do
  let bearer ← s.pgwDefaultBearerInSess sess
  let s := s.setSess sess fun m => { m with
    imsi := req.imsi, sgwS5cTeid := req.sgwS5cTeid, qci := req.qci, arp := req.arp
    ambr := req.ambr.getD m.ambr, tai := req.tai, eCgi := req.eCgi }
  some (s.setBearer bearer fun m => { m with
    sgwS5uTeid := req.sgwS5uTeid, gnode := some req.gnode })

/-- A message without a TEID: the session is added, and the request is handled unless it is a
retransmission or lacks something. -/
def createSession (sess : PgwSessId) (bearer : PgwBearerId) (imsi apn : Bytes)
    (pdnType ebi : UInt8) (index4 index6 : Nat) (gnode : NodeId)
    (req : Option PgwSessionRequest) : Option PgwContext := do
  let s ← s.pgwSessAdd cfg sess bearer imsi apn pdnType ebi index4 index6
  let s := s.setSess sess fun m => { m with gnode := some gnode }
  match req with
  | some req => s.pgwS5cHandleCreateSessionRequest sess req
  | none => some s

/-- `pgw_gx_send_ccr` saves the identity of a new Diameter session. -/
def pgwGxSendCcr (sess : PgwSessId) (sid : CString) : PgwContext :=
  s.setSess sess fun m => { m with gxSid := m.gxSid.or (some sid) }

/-! ## Policy rules -/

/-- The body of the loop over the flows of a rule. -/
def addFlow (bearer : PgwBearerId) (precedence : UInt32) (flow : Flow) (pf : PgwPfId) :
    Option PgwContext := do
  let description ← flow.description
  let rule ← compile description
  let s ← s.pgwPfAdd pf bearer precedence
  some { s with pfs := s.pfs.modify pf fun m =>
    { m with rule := rule, direction := flow.direction % 4 } }

/-- The flows are added in slots that the pool gives out. -/
def addFlows (bearer : PgwBearerId) (precedence : UInt32) (flows : List (Flow × PgwPfId)) :
    Option PgwContext :=
  flows.foldlM (fun s f => s.addFlow compile bearer precedence f.1 f.2) s

/-- A bit rate of the rule is there and differs. -/
def rateChanged (new old : UInt64) : Bool := new != 0 && old != new

def qosChanged (new old : Qos) : Bool :=
  rateChanged new.mbr.downlink old.mbr.downlink || rateChanged new.mbr.uplink old.mbr.uplink ||
    rateChanged new.gbr.downlink old.gbr.downlink || rateChanged new.gbr.uplink old.gbr.uplink

variable {maxNumOfFlow : Nat}

/-- A rule for which there is no bearer gets a new one. -/
def createBearer (sess : PgwSessId) (name : CString) (rule : PccRule maxNumOfFlow)
    (bearer : PgwBearerId) (pfs : List PgwPfId) : Option (PgwContext × List PgwOutput) :=
  if rule.flow = [] ∨ rule.flow.length ≠ pfs.length then none
  else do
    let s ← s.pgwBearerAdd bearer sess
    let s := s.setBearer bearer fun m => { m with name := some name, qos := rule.qos }
    let s ← s.addFlows compile bearer rule.precedence (rule.flow.zip pfs)
    let linkedBearer ← s.pgwDefaultBearerInSess sess
    some (s, [.createBearerRequest bearer (s.bearers.mem linkedBearer).ebi
      (s.bearers.mem bearer).ebi (s.bearers.mem bearer).pgwS5uTeid (s.bearers.mem bearer).qos
      (s.encodeTrafficFlowTemplate bearer)])

/-- The bearer of a rule gets new flows, if there are any, and new bit rates. Nothing is sent when
neither changes. -/
def updateBearer (name : CString) (rule : PccRule maxNumOfFlow) (bearer : PgwBearerId)
    (pfs : List PgwPfId) : Option (PgwContext × List PgwOutput) :=
  if (s.bearers.mem bearer).name ≠ some name ∨ rule.flow.length ≠ pfs.length then none
  else do
    let tftPresence := !rule.flow.isEmpty
    let qosPresence := qosChanged rule.qos (s.bearers.mem bearer).qos
    let s := if tftPresence then s.pgwPfRemoveAll bearer else s
    let s := if qosPresence then s.setBearer bearer fun m => { m with qos := rule.qos } else s
    if !tftPresence && !qosPresence then some (s, [])
    else do
      let s ← s.addFlows compile bearer rule.precedence (rule.flow.zip pfs)
      some (s, [.updateBearerRequest bearer (s.bearers.mem bearer).ebi
        (if qosPresence then some (s.bearers.mem bearer).qos else none)
        (if tftPresence then some (s.encodeTrafficFlowTemplate bearer) else none)])

/-- The body of the loop of `bearer_binding`. -/
def bindRule (sess : PgwSessId) (rule : PccRule maxNumOfFlow) (bearer : PgwBearerId)
    (pfs : List PgwPfId) : Option (PgwContext × List PgwOutput) :=
  match rule.name with
  | none => some (s, [])
  | some name =>
    if rule.type = pccRuleTypeInstall then
      match s.pgwBearerFindByQciArp sess rule.qos.qci rule.qos.arp with
      | none => s.createBearer compile sess name rule bearer pfs
      | some bearer => s.updateBearer compile name rule bearer pfs
    else if rule.type = pccRuleTypeRemove then do
      let bearer ← s.pgwBearerFindByName sess name
      some (s, [.deleteBearerRequest bearer (s.bearers.mem bearer).ebi])
    else none

/-- `bearer_binding`, with the slots for each rule. A rule that is removed ends it. -/
def bearerBinding (sess : PgwSessId) :
    List (PccRule maxNumOfFlow × PgwBearerId × List PgwPfId) → PgwContext →
      Option (PgwContext × List PgwOutput)
  | [], s => some (s, [])
  | (rule, bearer, pfs) :: rules, s => do
    let (s, out) ← s.bindRule compile sess rule bearer pfs
    if rule.name.isSome ∧ rule.type = pccRuleTypeRemove then some (s, out)
    else do
      let (s, out') ← bearerBinding sess rules s
      some (s, out ++ out')

/-! ## Bearers -/

/-- The bearer is looked for among all bearers of the PGW. -/
def pgwS5cHandleCreateBearerResponse (rsp : PgwBearerResponse) : Option PgwContext := do
  let bearer ← s.pgwBearerFindByPgwS5uTeid rsp.pgwS5uTeid
  some (s.setBearer bearer fun m => { m with
    ebi := rsp.ebi, sgwS5uTeid := rsp.sgwS5uTeid, gnode := some rsp.gnode })

def pgwS5cHandleDeleteBearerResponse (sess : PgwSessId) (ebi : UInt8) : Option PgwContext := do
  let bearer ← s.pgwBearerFindByEbi sess ebi
  some (s.pgwBearerRemove bearer)

end

/-! ## Events -/

/-- The events, with the slots that the pools give out. `none` for what a response takes with it
says that it lacks something. -/
inductive Op (maxNumOfFlow : Nat)
  | createSessionRequest (sess : PgwSessId) (bearer : PgwBearerId) (imsi apn : Bytes)
    (pdnType ebi : UInt8) (index4 index6 : Nat) (gnode : NodeId) (req : Option PgwSessionRequest)
  | sendCcr (sess : PgwSessId) (sid : CString)
  | pccRule (sess : PgwSessId) (rule : PccRule maxNumOfFlow) (bearer : PgwBearerId)
    (pfs : List PgwPfId)
  | createBearerResponse (sess : PgwSessId) (rsp : Option PgwBearerResponse)
  | deleteBearerResponse (sess : PgwSessId) (ebi : Option UInt8)
  | sessRemove (sess : PgwSessId)
  deriving DecidableEq

variable {maxNumOfFlow : Nat}

/-- Nothing is sent. -/
def silent (s : Option PgwContext) : Option (PgwContext × List PgwOutput) := s.map fun s => (s, [])

/-- What an event does. Every message but the first one is for a session that is there. -/
def apply [Ogslib] (cfg : PgwConfig) (compile : CString → Option PgwRule) (s : PgwContext) :
    Op maxNumOfFlow → Option (PgwContext × List PgwOutput)
  | .createSessionRequest sess bearer imsi apn pdnType ebi index4 index6 gnode req =>
    silent (s.createSession cfg sess bearer imsi apn pdnType ebi index4 index6 gnode req)
  | .sendCcr sess sid =>
    if s.sess.live sess = true then some (s.pgwGxSendCcr sess sid, []) else none
  | .pccRule sess rule bearer pfs =>
    if s.sess.live sess = true then s.bindRule compile sess rule bearer pfs else none
  | .createBearerResponse sess rsp =>
    if s.sess.live sess = true then
      match rsp with
      | none => some (s, [])
      | some rsp => silent (s.pgwS5cHandleCreateBearerResponse rsp)
    else none
  | .deleteBearerResponse sess ebi =>
    if s.sess.live sess = true then
      match ebi with
      | none => some (s, [])
      | some ebi => silent (s.pgwS5cHandleDeleteBearerResponse sess ebi)
    else none
  | .sessRemove sess => if s.sess.live sess = true then some (s.pgwSessRemove sess, []) else none

/-- An event and what is sent. -/
def Step [Ogslib] (cfg : PgwConfig) (compile : CString → Option PgwRule) (s : PgwContext)
    (a : Op maxNumOfFlow × List PgwOutput) (t : PgwContext) : Prop :=
  s.apply cfg compile a.1 = some (t, a.2)

end PgwContext
end NextEpc

import NextEpc.Gtp.XactSystem
import NextEpc.Pgw.SessionSelect
import NextEpc.Sgw.Handlers

/-!
# Create Session Requests that are received again

A message without a TEID is a Create Session Request. `sgw_state_operational` and
`pgw_state_operational` add a UE or a session for it first and ask `ogs_gtp_xact_receive` after
that whether the request was received before. If it was, what they have added stays.

What the handlers do with transactions are calls of their own here.
-/

namespace NextEpc

/-- What the program is given while it looks for the transaction of a message: the slot and the
timers of a new one, and the result of `ogs_gtp_sendto`. -/
structure ReceiveEnv where
  create : CreateEnv
  sendto : Bool
  deriving DecidableEq

/-- The header of a Create Session Request without a TEID. -/
def createSessionHeader (sqn : Octets4) : GtpHeader := ⟨GtpType.createSessionRequest, 0, sqn⟩

/-! ## The SGW -/

/-- A Create Session Request on S11. For the address in the F-TEID of the sender
`sgw_mme_add_by_message` finds or adds a node. -/
structure S11CreateSessionRequest where
  sqn : Octets4
  sender : Option SgwFTeid
  imsi : Option Bytes
  ebi : Option UInt8
  apn : Option Bytes
  pgw : Option NodeId
  uli : Bool
  deriving DecidableEq

/-- The slots that the pools give out. -/
structure SgwSlots where
  sgwUe : SgwUeId
  sess : SgwSessId
  bearer : SgwBearerId
  s1uTunnel : SgwTunnelId
  s5uTunnel : SgwTunnelId
  deriving DecidableEq

structure SgwControl where
  context : SgwContext
  xact : GtpState

namespace SgwControl

def initial : SgwControl := ⟨SgwContext.initial, GtpState.init⟩

/-- `SGW_EVT_S11_MESSAGE` with a Create Session Request that has no TEID. -/
def receive [Ogslib] (s : SgwControl) (env : ReceiveEnv) (slots : SgwSlots)
    (req : S11CreateSessionRequest) : Option (SgwControl × Rv) := do
  let mme ← req.sender
  let imsi ← req.imsi
  let context ← s.context.sgwUeAdd slots.sgwUe imsi mme.gnode
  let (xact, rv, _) ← (ogsGtpXactReceive s.xact env.create mme.gnode
    (createSessionHeader req.sqn) env.sendto).toOption
  if rv ≠ .ok then some (⟨context, xact⟩, rv)
  else do
    let (context, _) ← context.sgwS11HandleCreateSessionRequest slots.sess slots.bearer
      slots.s1uTunnel slots.s5uTunnel slots.sgwUe req.ebi req.apn (some mme.teid) req.pgw req.uli
    some (⟨context, xact⟩, rv)

/-- `ogs_gtp_xact_receive` returns `OGS_RETRY` for the request. -/
def Retransmitted [Ogslib] (s : SgwControl) (env : ReceiveEnv) (req : S11CreateSessionRequest) :
    Prop :=
  ∃ mme xact i, req.sender = some mme ∧ ogsGtpXactReceive s.xact env.create mme.gnode
    (createSessionHeader req.sqn) env.sendto = .ok (xact, .retry, i)

/-- The UEs, sessions and bearers are as before. -/
def Unchanged (s t : SgwControl) : Prop :=
  t.context.ues = s.context.ues ∧ t.context.sesss = s.context.sesss ∧
    t.context.bearers = s.context.bearers

/-- A free slot is a UE without sessions, and nothing else has changed. -/
structure AddsUe (s : SgwControl) (sgwUe : SgwUeId) (t : SgwControl) : Prop where
  free : s.context.ues.live sgwUe = false
  live : ∀ ue, t.context.ues.live ue = true ↔ ue = sgwUe ∨ s.context.ues.live ue = true
  empty : (t.context.ues.mem sgwUe).sessList = []
  mem : ∀ ue, ue ≠ sgwUe → t.context.ues.mem ue = s.context.ues.mem ue
  rest : t.context = { s.context with ues := t.context.ues }

theorem AddsUe.not_unchanged {s t : SgwControl} {sgwUe : SgwUeId} (h : s.AddsUe sgwUe t) :
    ¬s.Unchanged t := by
  rintro ⟨hues, -⟩
  have hlive : t.context.ues.live sgwUe = true := (h.live sgwUe).mpr (Or.inl rfl)
  rw [hues, h.free] at hlive
  cases hlive

/-- A request, another event, and a call of the transaction layer. -/
inductive Event
  | request (env : ReceiveEnv) (slots : SgwSlots) (req : S11CreateSessionRequest) (rv : Rv)
  | other (op : SgwContext.Op)
  | xact (op : XactOp)

inductive Step [Ogslib] (s : SgwControl) : Event → SgwControl → Prop
  | request {env : ReceiveEnv} {slots : SgwSlots} {req : S11CreateSessionRequest} {rv : Rv}
      {t : SgwControl} : (∀ i, env.create.slot = some i → s.xact.pool i = none) →
      s.receive env slots req = some (t, rv) → Step s (.request env slots req rv) t
  | other {op : SgwContext.Op} {out : List SgwOutput} {context : SgwContext} :
      (∀ sgwUe imsi gnode, op ≠ .ueAdd sgwUe imsi gnode) →
      SgwContext.Step s.context (op, out) context → Step s (.other op) ⟨context, s.xact⟩
  | xact {op : XactOp} {out : XactOut} {xact : GtpState} :
      XactStep s.xact (op, out) xact → Step s (.xact op) ⟨s.context, xact⟩

section
variable [Ogslib] {s t : SgwControl} {env : ReceiveEnv} {slots : SgwSlots}
  {req : S11CreateSessionRequest} {rv : Rv}

/-- The UE is there before the transaction is looked for. -/
theorem receive_added (h : s.receive env slots req = some (t, rv)) :
    ∃ mme imsi context xact i, req.sender = some mme ∧ req.imsi = some imsi ∧
      s.context.sgwUeAdd slots.sgwUe imsi mme.gnode = some context ∧
      ogsGtpXactReceive s.xact env.create mme.gnode (createSessionHeader req.sqn) env.sendto =
        .ok (xact, rv, i) ∧ t.xact = xact ∧ (rv ≠ .ok → t.context = context) := by
  obtain ⟨mme, hmme, h⟩ := Option.bind_eq_some_iff.mp h
  obtain ⟨imsi, himsi, h⟩ := Option.bind_eq_some_iff.mp h
  obtain ⟨context, hadd, h⟩ := Option.bind_eq_some_iff.mp h
  obtain ⟨⟨xact, rv', i⟩, hreceive, h⟩ := Option.bind_eq_some_iff.mp h
  have hreceive := Fallible.toOption_eq_some.mp hreceive
  refine ⟨mme, imsi, context, xact, i, hmme, himsi, hadd, ?_⟩
  dsimp only at h
  by_cases hok : rv' = .ok
  · rw [if_neg (not_not_intro hok)] at h
    obtain ⟨_, _, h⟩ := Option.bind_eq_some_iff.mp h
    cases h
    exact ⟨hreceive, rfl, fun hne => absurd hok hne⟩
  · rw [if_pos hok] at h
    cases h
    exact ⟨hreceive, rfl, fun _ => rfl⟩

/-- A request that is received again leaves a UE behind. -/
theorem addsUe_of_retry (h : s.receive env slots req = some (t, .retry)) :
    s.AddsUe slots.sgwUe t := by
  obtain ⟨mme, imsi, context, xact, i, -, -, hadd, -, -, hcontext⟩ := receive_added h
  rw [SgwContext.sgwUeAdd, Option.ite_none_right_eq_some] at hadd
  obtain ⟨⟨-, hfree, -⟩, hadd⟩ := hadd
  cases hadd
  have hcontext := hcontext (by decide)
  refine ⟨hfree, ?_, ?_, ?_, ?_⟩
  · intro ue
    rw [hcontext, Pool.live_modify, Pool.live_alloc]
    split <;> simp [*]
  · simp [hcontext, SgwUeRecord.add]
  · intro ue hne
    simp [hcontext, hne]
  · simp [hcontext]

/-- What `ogs_gtp_xact_receive` returns does not depend on the context. -/
theorem Retransmitted.eq_retry (hretry : s.Retransmitted env req)
    (h : s.receive env slots req = some (t, rv)) : rv = .retry := by
  obtain ⟨mme, xact, i, hmme, hreceive⟩ := hretry
  obtain ⟨mme', _, _, xact', j, hmme', -, -, hreceive', -⟩ := receive_added h
  obtain rfl : mme = mme' := Option.some.inj (hmme.symm.trans hmme')
  rw [hreceive] at hreceive'
  cases hreceive'
  rfl

theorem Retransmitted.addsUe (hretry : s.Retransmitted env req)
    (h : s.receive env slots req = some (t, rv)) : s.AddsUe slots.sgwUe t := by
  obtain rfl := hretry.eq_retry h
  exact addsUe_of_retry h

end
end SgwControl

/-! ## The PGW -/

/-- A Create Session Request on S5. For the address in the F-TEID of the sender
`pgw_sgw_add_by_message` finds or adds a node. `ies` is what the handler takes if nothing is
missing. -/
structure S5cCreateSessionRequest where
  sqn : Octets4
  sender : Option NodeId
  imsi : Option Bytes
  apn : Option Bytes
  ebi : Option UInt8
  pdnType : Option UInt8
  ies : Option PgwSessionRequest
  deriving DecidableEq

/-- The slots that the pools give out. -/
structure PgwSlots where
  sess : PgwSessId
  bearer : PgwBearerId
  index4 : Nat
  index6 : Nat
  deriving DecidableEq

structure PgwControl where
  context : PgwContext
  xact : GtpState

namespace PgwControl

def initial (arrays : List (List PgwUeIp)) : PgwControl :=
  ⟨PgwContext.initial arrays, GtpState.init⟩

/-- `PGW_EVT_S5C_MESSAGE` with a Create Session Request that has no TEID. -/
def receive [Ogslib] (cfg : PgwConfig) (s : PgwControl) (env : ReceiveEnv) (slots : PgwSlots)
    (req : S5cCreateSessionRequest) : Option (PgwControl × Rv) := do
  let sgw ← req.sender
  let imsi ← req.imsi
  let apn ← req.apn
  let ebi ← req.ebi
  let pdnType ← req.pdnType
  let context ← s.context.createSession cfg slots.sess slots.bearer imsi apn pdnType ebi
    slots.index4 slots.index6 sgw none
  let (xact, rv, _) ← (ogsGtpXactReceive s.xact env.create sgw
    (createSessionHeader req.sqn) env.sendto).toOption
  match rv, req.ies with
  | .ok, some ies => do
    let context ← context.pgwS5cHandleCreateSessionRequest slots.sess ies
    some (⟨context, xact⟩, rv)
  | _, _ => some (⟨context, xact⟩, rv)

/-- `ogs_gtp_xact_receive` returns `OGS_RETRY` for the request. -/
def Retransmitted [Ogslib] (s : PgwControl) (env : ReceiveEnv) (req : S5cCreateSessionRequest) :
    Prop :=
  ∃ sgw xact i, req.sender = some sgw ∧ ogsGtpXactReceive s.xact env.create sgw
    (createSessionHeader req.sqn) env.sendto = .ok (xact, .retry, i)

/-- The sessions, bearers and addresses are as before. -/
def Unchanged (s t : PgwControl) : Prop :=
  t.context.sess = s.context.sess ∧ t.context.sessMem = s.context.sessMem ∧
    t.context.sessList = s.context.sessList ∧ t.context.bearers = s.context.bearers ∧
    t.context.ueIp = s.context.ueIp

/-- A free slot is a session, with a bearer in a free slot and with addresses that were free. -/
structure AddsSession (s : PgwControl) (sess : PgwSessId) (bearer : PgwBearerId) (t : PgwControl) :
    Prop where
  free : s.context.sess.live sess = false
  live : ∀ σ, t.context.sess.live σ = true ↔ σ = sess ∨ s.context.sess.live σ = true
  freeBearer : s.context.bearers.live bearer = false
  liveBearer : ∀ b, t.context.bearers.live b = true ↔ b = bearer ∨ s.context.bearers.live b = true
  bearers : (t.context.sessMem sess).bearerList = [bearer]
  address : ∃ ueIps, ueIps ≠ [] ∧ (∀ ueIp ∈ ueIps, ¬s.context.InUse ueIp) ∧
    ∀ ueIp, t.context.InUse ueIp ↔ ueIp ∈ ueIps ∨ s.context.InUse ueIp

theorem AddsSession.not_unchanged {s t : PgwControl} {sess : PgwSessId}
    {bearer : PgwBearerId}
    (h : s.AddsSession sess bearer t) : ¬s.Unchanged t := by
  rintro ⟨hsess, -⟩
  have hlive : t.context.sess.live sess = true := (h.live sess).mpr (Or.inl rfl)
  rw [hsess, h.free] at hlive
  cases hlive

inductive Event (maxNumOfFlow : Nat)
  | request (env : ReceiveEnv) (slots : PgwSlots) (req : S5cCreateSessionRequest) (rv : Rv)
  | other (op : PgwContext.Op maxNumOfFlow)
  | xact (op : XactOp)

inductive Step [Ogslib] {maxNumOfFlow : Nat} (cfg : PgwConfig)
    (compile : CString → Option PgwRule) (s : PgwControl) :
    Event maxNumOfFlow → PgwControl → Prop
  | request {env : ReceiveEnv} {slots : PgwSlots} {req : S5cCreateSessionRequest} {rv : Rv}
      {t : PgwControl} : (∀ i, env.create.slot = some i → s.xact.pool i = none) →
      s.receive cfg env slots req = some (t, rv) →
      Step cfg compile s (.request env slots req rv) t
  | other {op : PgwContext.Op maxNumOfFlow} {out : List PgwOutput} {context : PgwContext} :
      (∀ sess bearer imsi apn pdnType ebi index4 index6 gnode req,
        op ≠ .createSessionRequest sess bearer imsi apn pdnType ebi index4 index6 gnode req) →
      PgwContext.Step cfg compile s.context (op, out) context →
      Step cfg compile s (.other op) ⟨context, s.xact⟩
  | xact {op : XactOp} {out : XactOut} {xact : GtpState} :
      XactStep s.xact (op, out) xact → Step cfg compile s (.xact op) ⟨s.context, xact⟩

section
variable [Ogslib] {cfg : PgwConfig} {s t : PgwControl} {env : ReceiveEnv} {slots : PgwSlots}
  {req : S5cCreateSessionRequest} {rv : Rv}

/-- The session is there before the transaction is looked for. -/
theorem receive_added (h : s.receive cfg env slots req = some (t, rv)) :
    ∃ sgw imsi apn pdnType ebi context xact i, req.sender = some sgw ∧
      s.context.createSession cfg slots.sess slots.bearer imsi apn pdnType ebi slots.index4
        slots.index6 sgw none = some context ∧
      ogsGtpXactReceive s.xact env.create sgw (createSessionHeader req.sqn) env.sendto =
        .ok (xact, rv, i) ∧ t.xact = xact ∧ (rv ≠ .ok → t.context = context) := by
  obtain ⟨sgw, hsgw, h⟩ := Option.bind_eq_some_iff.mp h
  obtain ⟨imsi, -, h⟩ := Option.bind_eq_some_iff.mp h
  obtain ⟨apn, -, h⟩ := Option.bind_eq_some_iff.mp h
  obtain ⟨ebi, -, h⟩ := Option.bind_eq_some_iff.mp h
  obtain ⟨pdnType, -, h⟩ := Option.bind_eq_some_iff.mp h
  obtain ⟨context, hadd, h⟩ := Option.bind_eq_some_iff.mp h
  obtain ⟨⟨xact, rv', i⟩, hreceive, h⟩ := Option.bind_eq_some_iff.mp h
  have hreceive := Fallible.toOption_eq_some.mp hreceive
  refine ⟨sgw, imsi, apn, pdnType, ebi, context, xact, i, hsgw, hadd, ?_⟩
  dsimp only at h
  split at h
  · obtain ⟨_, _, h⟩ := Option.bind_eq_some_iff.mp h
    cases h
    exact ⟨hreceive, rfl, fun hne => absurd rfl hne⟩
  · cases h
    exact ⟨hreceive, rfl, fun _ => rfl⟩

/-- A request that is received again leaves a session behind. -/
theorem addsSession_of_retry (h : s.receive cfg env slots req = some (t, .retry)) :
    s.AddsSession slots.sess slots.bearer t := by
  obtain ⟨sgw, imsi, apn, pdnType, ebi, context, xact, i, -, hadd, -, -, hcontext⟩ :=
    receive_added h
  have hcreates := PgwContext.createsSess_of_createSession hadd
  obtain ⟨new4, new6, htakes, hadded⟩ := Pgw.pgwSessAdd_ok hcreates.toPgw
  rw [← hcontext (by decide)] at hcreates hadded
  refine ⟨hcreates.slot.2, hcreates.live_sess, hcreates.bearerSlot.2, hcreates.live_bearer, ?_,
    new4.toList ++ new6.toList, ?_, fun ueIp hueIp => (htakes.free ueIp hueIp).1, hadded.inUse⟩
  · simp [hcreates.sessMem]
  · rcases htakes.pdnType with ⟨-, hsome, -⟩ | ⟨-, -, hsome⟩ | ⟨-, hsome, -⟩
    all_goals
      obtain ⟨ueIp, rfl⟩ := Option.isSome_iff_exists.mp hsome
      simp

theorem Retransmitted.eq_retry (hretry : s.Retransmitted env req)
    (h : s.receive cfg env slots req = some (t, rv)) : rv = .retry := by
  obtain ⟨sgw, xact, i, hsgw, hreceive⟩ := hretry
  obtain ⟨sgw', _, _, _, _, _, _, _, hsgw', -, hreceive', -⟩ := receive_added h
  obtain rfl : sgw = sgw' := Option.some.inj (hsgw.symm.trans hsgw')
  rw [hreceive] at hreceive'
  cases hreceive'
  rfl

theorem Retransmitted.addsSession (hretry : s.Retransmitted env req)
    (h : s.receive cfg env slots req = some (t, rv)) :
    s.AddsSession slots.sess slots.bearer t := by
  obtain rfl := hretry.eq_retry h
  exact addsSession_of_retry h

end
end PgwControl

/-! ## Requests that are received again -/

/-- In no state that can be reached does a request that is received again leave a gateway as it
was: the SGW has one UE more after it, and the PGW one session more, with a bearer and addresses of
its own. -/
theorem createSessionRequest_retry [Ogslib] :
    (∀ s, Lts.Reaches SgwControl.Step SgwControl.initial s → ∀ env slots req,
      s.Retransmitted env req →
        (¬∃ t, s.receive env slots req = some (t, .retry) ∧ s.Unchanged t) ∧
          ∀ t rv, s.receive env slots req = some (t, rv) → s.AddsUe slots.sgwUe t) ∧
    ∀ (maxNumOfFlow : Nat) (cfg : PgwConfig) (compile : CString → Option PgwRule)
      (arrays : List (List PgwUeIp)) (s : PgwControl),
      Lts.Reaches (@PgwControl.Step _ maxNumOfFlow cfg compile) (PgwControl.initial arrays) s →
        ∀ env slots req, s.Retransmitted env req →
          (¬∃ t, s.receive cfg env slots req = some (t, .retry) ∧ s.Unchanged t) ∧
            ∀ t rv, s.receive cfg env slots req = some (t, rv) →
              s.AddsSession slots.sess slots.bearer t := by
  constructor
  · intro s _ env slots req hretry
    constructor
    · rintro ⟨t, h, hunchanged⟩
      exact (hretry.addsUe h).not_unchanged hunchanged
    · exact fun t rv h => hretry.addsUe h
  · intro _ cfg _ _ s _ env slots req hretry
    constructor
    · rintro ⟨t, h, hunchanged⟩
      exact (hretry.addsSession h).not_unchanged hunchanged
    · exact fun t rv h => hretry.addsSession h

section
attribute [local instance] Ogslib.reference

namespace SgwControl

/-- The first transaction, timers and a working socket. -/
def firstEnv : ReceiveEnv := ⟨⟨some 0, true, true⟩, true⟩

def firstSlots : SgwSlots := ⟨1, 1, 1, 1, 2⟩

def firstRequest : S11CreateSessionRequest :=
  ⟨Octets.htonl 0x100, some ⟨7, 1⟩, some [1], some 5, some [2], some 2, true⟩

/-- The request was received once. -/
def afterFirst : SgwControl :=
  ((initial.receive firstEnv firstSlots firstRequest).getD (initial, .ok)).1

theorem reaches_afterFirst : Lts.Reaches Step initial afterFirst :=
  Relation.ReflTransGen.single ⟨.request firstEnv firstSlots firstRequest .ok,
    Step.request (fun _ _ => rfl) rfl⟩

theorem retransmitted_afterFirst : afterFirst.Retransmitted firstEnv firstRequest :=
  ⟨⟨7, 1⟩, _, 0, rfl, rfl⟩

end SgwControl

namespace PgwControl

def firstSlots : PgwSlots := ⟨1, 1, 0, 0⟩

def firstRequest : S5cCreateSessionRequest :=
  ⟨Octets.htonl 0x100, some 1, some [1], some [], some 5, some Pgw.pdnTypeIpv4, none⟩

/-- The request was received once. -/
def afterFirst : PgwControl :=
  (((initial Pgw.twoArrays).receive Pgw.twoSubnets SgwControl.firstEnv firstSlots
    firstRequest).getD (initial Pgw.twoArrays, .ok)).1

theorem reaches_afterFirst : Lts.Reaches (@Step _ 0 Pgw.twoSubnets fun _ => none)
    (initial Pgw.twoArrays) afterFirst :=
  Relation.ReflTransGen.single ⟨.request SgwControl.firstEnv firstSlots firstRequest .ok,
    Step.request (fun _ _ => rfl) rfl⟩

theorem retransmitted_afterFirst : afterFirst.Retransmitted SgwControl.firstEnv firstRequest :=
  ⟨1, _, 0, rfl, rfl⟩

end PgwControl

/-- After a copy of the first request the SGW has a second UE, and the PGW a second session. -/
theorem createSessionRequest_retry_second :
    (SgwControl.afterFirst.AddsUe 2 (((SgwControl.afterFirst.receive SgwControl.firstEnv
      ⟨2, 2, 2, 3, 4⟩ SgwControl.firstRequest).getD (SgwControl.initial, .ok)).1)) ∧
    PgwControl.afterFirst.AddsSession 2 2 (((PgwControl.afterFirst.receive Pgw.twoSubnets
      SgwControl.firstEnv ⟨2, 2, 1, 0⟩ PgwControl.firstRequest).getD
        (PgwControl.initial [], .ok)).1) := by
  constructor
  · exact (createSessionRequest_retry.1 _ SgwControl.reaches_afterFirst _ ⟨2, 2, 2, 3, 4⟩ _
      SgwControl.retransmitted_afterFirst).2 _ .retry rfl
  · exact (createSessionRequest_retry.2 0 _ (fun _ => none) _ _ PgwControl.reaches_afterFirst _
      ⟨2, 2, 1, 0⟩ _ PgwControl.retransmitted_afterFirst).2 _ .retry rfl

/-- The second UE is one more, as is the second session. -/
theorem createSessionRequest_retry_changes :
    (¬∀ s, Lts.Reaches SgwControl.Step SgwControl.initial s → ∀ env slots req,
      s.Retransmitted env req → ∀ t rv, s.receive env slots req = some (t, rv) →
        s.Unchanged t) ∧
    ¬∀ (cfg : PgwConfig) (arrays : List (List PgwUeIp)), pgwUePoolGenerate cfg = .ok arrays →
      ∀ s, Lts.Reaches (@PgwControl.Step _ 0 cfg fun _ => none) (PgwControl.initial arrays) s →
        ∀ env slots req, s.Retransmitted env req →
          ∀ t rv, s.receive cfg env slots req = some (t, rv) → s.Unchanged t := by
  constructor
  · intro hclaim
    have hues := (hclaim _ SgwControl.reaches_afterFirst _ ⟨2, 2, 2, 3, 4⟩ _
      SgwControl.retransmitted_afterFirst _ .retry rfl).1
    exact absurd (congrFun (congrArg Pool.live hues) 2) (by decide)
  · intro hclaim
    have hsess := (hclaim _ _ Pgw.pgwUePoolGenerate_two _ PgwControl.reaches_afterFirst _
      ⟨2, 2, 1, 0⟩ _ PgwControl.retransmitted_afterFirst _ .retry rfl).1
    exact absurd (congrFun (congrArg Pool.live hsess) 2) (by decide)

end

end NextEpc

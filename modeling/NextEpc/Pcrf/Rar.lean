import NextEpc.Pcrf.Rule

/-!
# AA-Requests

`pcrf_rx_aar_cb` with the branch of `pcrf_gx_send_rar` for it. The flows that the PGW has after the
Re-Auth-Request are compared with those of the media components, and the state after a request
that is answered with a failure is compared with the one before.
-/

namespace NextEpc

/-- `struct rx_sess_state`, an entry of the list of a Gx session -/
structure RxEntry (maxNumOfFlow : Nat) where
  sid : CString
  pccRule : List (PccRule maxNumOfFlow)
  deriving DecidableEq

/-- `struct sess_state` of a Gx session -/
structure GxSess (maxNumOfFlow : Nat) where
  peerHost : Option CString
  imsiBcd : Option CString
  apn : Option CString
  rxList : List (RxEntry maxNumOfFlow)
  deriving DecidableEq

/-- `struct sess_state` of an Rx session -/
structure RxSess where
  gxSid : Option CString
  peerHost : Option CString
  aborted : Bool
  deriving DecidableEq

/-- The states that are stored in the Diameter sessions. -/
structure PcrfContext (maxNumOfFlow : Nat) where
  gx : CString → Option (GxSess maxNumOfFlow)
  rx : CString → Option RxSess

/-- What is given to the PCRF: the subscribers, `0.05 *` in floating point. -/
structure PcrfEnv (maxNumOfFlow : Nat) where
  qosData : CString → CString → Option (List (PccRule maxNumOfFlow))
  share : UInt64 → UInt64 → UInt64 → UInt64

namespace Pcrf
variable {maxNumOfFlow : Nat}

/-! ## The PCRF -/

/-- `find_rx_state` and, when there is none, `add_rx_state` -/
def findOrAdd (rxList : List (RxEntry maxNumOfFlow)) (rxSid : CString) :
    List (RxEntry maxNumOfFlow) × Nat :=
  match rxList.findIdx? fun entry => entry.sid == rxSid with
  | some j => (rxList, j)
  | none => (rxList ++ [⟨rxSid, []⟩], rxList.length)

/-- The branch of `pcrf_gx_send_rar` for an AA-Request: the state to be stored, the rules of the
Re-Auth-Request, and the result code -/
def sendRarAa (env : PcrfEnv maxNumOfFlow) (rxSid : CString)
    (components : List (MediaComponent maxNumOfFlow)) (gx : GxSess maxNumOfFlow) :
    Option (GxSess maxNumOfFlow × Option (List (RuleDefinition maxNumOfFlow)) × UInt32) := do
  let (rxList, j) := findOrAdd gx.rxList rxSid
  let entry ← rxList[j]?
  let imsiBcd ← gx.imsiBcd
  let apn ← gx.apn
  match env.qosData imsiBcd apn with
  | none => some ({ gx with rxList := rxList }, none, ipCanSessionNotAvailable)
  | some db =>
    match ← bindComponents env.share db components ⟨entry.pccRule, []⟩ with
    | .error (st, code) =>
      some ({ gx with rxList := rxList.set j { entry with pccRule := st.pccRule } }, none, code)
    | .ok st =>
      let gx := { gx with rxList := rxList.set j { entry with pccRule := st.pccRule } }
      if st.install = [] then some (gx, none, erDiameterSuccess)
      else do
        let _ ← gx.peerHost
        some (gx, some st.install, erDiameterSuccess)

/-- The state of an Rx session, or a new one. -/
def retrieveOrNew (p : PcrfContext maxNumOfFlow) (sid : CString) : RxSess :=
  (p.rx sid).getD ⟨none, none, false⟩

/-- `pcrf_rx_aar_cb`, for the Gx session that the address has led to: the states, the result code
of the answer and the rules of the Re-Auth-Request. `known` is whether there is a Diameter session
when there is no state. -/
def aarCb (env : PcrfEnv maxNumOfFlow) (sid : CString) (gxSid : Option CString) (known : Bool)
    (avps : List Avp) (p : PcrfContext maxNumOfFlow) :
    Option (PcrfContext maxNumOfFlow × UInt32 × Option (List (RuleDefinition maxNumOfFlow))) :=
  let rx := retrieveOrNew p sid
  -- `state_cleanup`
  let dropped := Function.update p.rx sid none
  match gxSid with
  | none => some ({ p with rx := dropped }, ipCanSessionNotAvailable, none)
  | some gxSid => do
    let msg ← Rx.decodeAar maxNumOfFlow rx.peerHost avps
    match p.gx gxSid with
    | none => some ({ p with rx := dropped }, if known then unknownSessionId else unknownPeer, none)
    | some gx => do
      let (gx, rar, code) ← sendRarAa env sid msg.mediaComponent gx
      let gxs := Function.update p.gx gxSid (some gx)
      if code = erDiameterSuccess then
        let rx : RxSess := { rx with
          gxSid := rx.gxSid <|> some gxSid
          peerHost := msg.peerHost }
        some (⟨gxs, Function.update p.rx sid (some rx)⟩, code, rar)
      else some (⟨gxs, dropped⟩, code, rar)

/-! ## The PGW -/

/-- A rule as the PGW has it. -/
structure InstalledRule where
  flow : List Flow
  qos : Qos
  deriving DecidableEq

/-- The flows that are encoded. -/
def RuleDefinition.flow (d : RuleDefinition maxNumOfFlow) : List Flow :=
  if d.flowPresence then d.pccRule.flow else []

/-- A bit rate of a definition is not the one of the rule. -/
def ratesDiffer (new old : Qos) : Prop :=
  (new.mbr.downlink ≠ 0 ∧ old.mbr.downlink ≠ new.mbr.downlink) ∨
  (new.mbr.uplink ≠ 0 ∧ old.mbr.uplink ≠ new.mbr.uplink) ∨
  (new.gbr.downlink ≠ 0 ∧ old.gbr.downlink ≠ new.gbr.downlink) ∨
  (new.gbr.uplink ≠ 0 ∧ old.gbr.uplink ≠ new.gbr.uplink)

instance (new old : Qos) : Decidable (ratesDiffer new old) :=
  inferInstanceAs (Decidable (_ ∨ _))

/-- What `bearer_binding` makes of a definition: flows replace those of the rule, and without flows
the rule keeps the ones it has. -/
def installRule (pgw : CString → Option InstalledRule) (d : RuleDefinition maxNumOfFlow) :
    CString → Option InstalledRule :=
  match d.pccRule.name with
  | none => pgw
  | some name =>
    Function.update pgw name (some (match pgw name with
      | none => ⟨d.flow, d.pccRule.qos⟩
      | some rule =>
        { flow := if d.flow = [] then rule.flow else d.flow
          qos := if ratesDiffer d.pccRule.qos rule.qos then d.pccRule.qos else rule.qos }))

/-- The PGW after a Re-Auth-Request. -/
def applyRar (pgw : CString → Option InstalledRule)
    (rar : Option (List (RuleDefinition maxNumOfFlow))) : CString → Option InstalledRule :=
  (rar.getD []).foldl installRule pgw

/-- The flows of a rule. -/
def flowsAt (pgw : CString → Option InstalledRule) (name : CString) : List Flow :=
  ((pgw name).map (·.flow)).getD []

/-! ## Rounds on the flows alone -/

/-- What a round does to the flows of the rule in the Rx session, and to those at the PGW. -/
def refill (flows : Option (List Flow) × List Flow) (new : List Flow) :
    Option (List Flow) × List Flow :=
  if Reinstalls flows.1 new then (some new, new) else flows

/-- After all rounds the PGW has what it had, or the flows of one of the components. -/
theorem refill_mem (flows : Option (List Flow) × List Flow) (news : List (List Flow)) :
    (news.foldl refill flows).2 = flows.2 ∨ (news.foldl refill flows).2 ∈ news := by
  induction news generalizing flows with
  | nil => exact Or.inl rfl
  | cons new news ih =>
    rw [List.foldl_cons]
    rcases ih (refill flows new) with hkept | hmem
    · rw [hkept, refill]
      split
      · exact Or.inr List.mem_cons_self
      · exact Or.inl rfl
    · exact Or.inr (List.mem_cons_of_mem _ hmem)

theorem refill_of_not {flows : Option (List Flow) × List Flow} {news : List (List Flow)}
    (h : ∀ new ∈ news, ¬Reinstalls flows.1 new) : news.foldl refill flows = flows := by
  induction news with
  | nil => rfl
  | cons new news ih =>
    rw [List.foldl_cons, refill, if_neg (h new List.mem_cons_self)]
    exact ih fun new' h' => h new' (List.mem_cons_of_mem _ h')

/-- What was at the PGW is gone once a component does not match. -/
theorem refill_of_exists {flows : Option (List Flow) × List Flow} {news : List (List Flow)}
    (h : ∃ new ∈ news, Reinstalls flows.1 new) : (news.foldl refill flows).2 ∈ news := by
  induction news with
  | nil =>
    obtain ⟨new, hnew, -⟩ := h
    cases hnew
  | cons new news ih =>
    rw [List.foldl_cons, refill]
    split
    · rcases refill_mem (some new, new) news with hkept | hmem
      · rw [hkept]
        exact List.mem_cons_self
      · exact List.mem_cons_of_mem _ hmem
    · rename_i hnot
      obtain ⟨new', hnew', hre⟩ := h
      rcases List.mem_cons.mp hnew' with rfl | hnew'
      · exact absurd hre hnot
      · exact List.mem_cons_of_mem _ (ih ⟨new', hnew', hre⟩)

/-- The PGW has the flows of all components exactly if these are the same ones and they are
installed or there already. -/
theorem refill_iff (flows : Option (List Flow) × List Flow) (news : List (List Flow)) :
    (∀ new ∈ news, ∀ flow, flow ∈ (news.foldl refill flows).2 ↔ flow ∈ new) ↔
      (∀ new ∈ news, ∀ new' ∈ news, ∀ flow, flow ∈ new ↔ flow ∈ new') ∧
      ((∃ new ∈ news, Reinstalls flows.1 new) ∨
        ∀ new ∈ news, ∀ flow, flow ∈ flows.2 ↔ flow ∈ new) := by
  constructor
  · intro h
    refine ⟨fun new hnew new' hnew' flow => (h new hnew flow).symm.trans (h new' hnew' flow), ?_⟩
    by_cases hre : ∃ new ∈ news, Reinstalls flows.1 new
    · exact Or.inl hre
    · push Not at hre
      rw [refill_of_not hre] at h
      exact Or.inr h
  · rintro ⟨hsame, hre⟩ new hnew flow
    by_cases hex : ∃ new ∈ news, Reinstalls flows.1 new
    · exact hsame _ (refill_of_exists hex) new hnew flow
    · have hnot := hex
      push Not at hnot
      rw [refill_of_not hnot]
      exact (hre.resolve_left hex) new hnew flow

/-! ## The loop -/

section
variable {share : UInt64 → UInt64 → UInt64 → UInt64} {db : List (PccRule maxNumOfFlow)}
  {c : MediaComponent maxNumOfFlow} {cs : List (MediaComponent maxNumOfFlow)}
  {st st' : AaState maxNumOfFlow} {pgw : CString → Option InstalledRule} {name : CString}

theorem flowsAt_installRule {d : RuleDefinition maxNumOfFlow} (hname : d.pccRule.name = some name) :
    flowsAt (installRule pgw d) name = if d.flow = [] then flowsAt pgw name else d.flow := by
  simp only [installRule, hname, flowsAt, Function.update_self, Option.map_some, Option.getD_some]
  cases pgw name with
  | none =>
    by_cases hflow : d.flow = [] <;> simp [hflow]
  | some rule => rfl

/-- The flows of the rule in the Rx session and at the PGW that a state of the loop stands for. -/
def flowsOf (pgw : CString → Option InstalledRule) (name : CString) (st : AaState maxNumOfFlow) :
    Option (List Flow) × List Flow :=
  ((qciRule st.pccRule).map (·.flow), flowsAt (st.install.foldl installRule pgw) name)

theorem bindComponent_flows (h : bindComponent share db st c = some (.ok st'))
    (hnumber : c.mediaComponentNumber ≠ 0) (hflows : rxFlows c ≠ [])
    (hname : ∀ dbPccRule, qciRule db = some dbPccRule → dbPccRule.name = some name) :
    flowsOf pgw name st' = refill (flowsOf pgw name st) ((gxFlows c).getD []) := by
  obtain ⟨dbPccRule, g, d, hdb, hg, hinstall, hstored, hdname, hpresence, hrule⟩ :=
    bindComponent_ok h hnumber
  have hne : g ≠ [] := gxFlows_ne_nil hflows hg
  rw [flowsOf, hinstall, List.foldl_append, List.foldl_cons, List.foldl_nil,
    flowsAt_installRule (hdname.trans (hname _ hdb)), hstored, hg, Option.map_some,
    Option.getD_some, refill, flowsOf, RuleDefinition.flow]
  by_cases hre : Reinstalls ((qciRule st.pccRule).map (·.flow)) g
  · have hpresent : d.flowPresence = true := hpresence.trans (decide_eq_true hre)
    have hflow : d.pccRule.flow = g := by
      rcases hrule with ⟨-, hflow, -⟩ | ⟨j, stored, qos, hle, -, -, -, -, hd⟩
      · exact hflow
      · exact (congrArg PccRule.flow hd).trans (if_pos hpresent)
    rw [if_pos hre, hpresent, if_pos rfl, hflow, if_neg hne]
  · have habsent : d.flowPresence = false := hpresence.trans (decide_eq_false hre)
    rcases hrule with ⟨hnone, -⟩ | ⟨j, stored, qos, hle, hsome, -, -, -, hd⟩
    · rw [hnone] at hre
      exact absurd trivial hre
    · have hflow : d.pccRule.flow = stored.flow :=
        (congrArg PccRule.flow hd).trans (if_neg (by simp [habsent]))
      rw [if_neg hre, habsent, hflow, hsome]
      rfl

/-- The media components that are bound to a rule. -/
def bound (cs : List (MediaComponent maxNumOfFlow)) : List (MediaComponent maxNumOfFlow) :=
  cs.filter fun c => c.mediaComponentNumber ≠ 0

/-- Components are bound one after another. -/
inductive Binds (share : UInt64 → UInt64 → UInt64 → UInt64) (db : List (PccRule maxNumOfFlow)) :
    AaState maxNumOfFlow → List (MediaComponent maxNumOfFlow) → AaState maxNumOfFlow → Prop
  | nil (st : AaState maxNumOfFlow) : Binds share db st [] st
  | cons {st st₁ st' : AaState maxNumOfFlow} {c : MediaComponent maxNumOfFlow}
      {cs : List (MediaComponent maxNumOfFlow)} :
      bindComponent share db st c = some (.ok st₁) → c.mediaComponentNumber ≠ 0 →
      Binds share db st₁ cs st' → Binds share db st (c :: cs) st'

/-- A loop to its end binds those that have a number. -/
theorem binds_of_bindComponents (h : bindComponents share db cs st = some (.ok st')) :
    Binds share db st (bound cs) st' := by
  induction cs generalizing st with
  | nil =>
    cases h
    exact .nil _
  | cons c cs ih =>
    obtain ⟨r, hr, h⟩ := Option.bind_eq_some_iff.mp h
    cases r with
    | error e => cases h
    | ok st₁ =>
      by_cases hnumber : c.mediaComponentNumber = 0
      · have hbound : bound (c :: cs) = bound cs := by simp [bound, hnumber]
        rw [bindComponent, if_pos hnumber] at hr
        cases hr
        rw [hbound]
        exact ih h
      · have hbound : bound (c :: cs) = c :: bound cs := by simp [bound, hnumber]
        rw [hbound]
        exact .cons hr hnumber (ih h)

theorem Binds.flows (h : Binds share db st cs st') (hflows : ∀ c ∈ cs, rxFlows c ≠ [])
    (hname : ∀ dbPccRule, qciRule db = some dbPccRule → dbPccRule.name = some name) :
    flowsOf pgw name st' =
      (cs.map fun c => (gxFlows c).getD []).foldl refill (flowsOf pgw name st) := by
  induction h with
  | nil => rfl
  | @cons _ _ _ c _ hround hnumber _ ih =>
    rw [ih fun c' hc' => hflows c' (List.mem_cons_of_mem _ hc'), List.map_cons, List.foldl_cons,
      bindComponent_flows hround hnumber (hflows c List.mem_cons_self) hname]

theorem bindComponents_flows (h : bindComponents share db cs st = some (.ok st'))
    (hflows : ∀ c ∈ bound cs, rxFlows c ≠ [])
    (hname : ∀ dbPccRule, qciRule db = some dbPccRule → dbPccRule.name = some name) :
    flowsOf pgw name st' =
      ((bound cs).map fun c => (gxFlows c).getD []).foldl refill (flowsOf pgw name st) :=
  (binds_of_bindComponents h).flows hflows hname

/-- Every component has its definition in the request. -/
theorem Binds.install (h : Binds share db st cs st') :
    st'.install.length = st.install.length + cs.length := by
  induction h with
  | nil => rfl
  | cons hround hnumber _ ih =>
    obtain ⟨dbPccRule, g, d, -, -, hinstall, -⟩ := bindComponent_ok hround hnumber
    rw [ih, hinstall, List.length_append, List.length_singleton, List.length_cons]
    omega

theorem bindComponents_install (h : bindComponents share db cs st = some (.ok st')) :
    st'.install.length = st.install.length + (bound cs).length :=
  (binds_of_bindComponents h).install

/-- A component was bound to a rule of the subscriber, which has a name. -/
theorem Binds.exists_name (h : Binds share db st cs st') (hne : cs ≠ []) :
    ∃ dbPccRule name, qciRule db = some dbPccRule ∧ dbPccRule.name = some name := by
  cases h with
  | nil => exact absurd rfl hne
  | cons hround hnumber _ =>
    obtain ⟨dbPccRule, g, d, hdb, -, -, -, hdname, -⟩ := bindComponent_ok hround hnumber
    obtain ⟨name, hname, -⟩ := Option.bind_eq_some_iff.mp d.encoded
    exact ⟨dbPccRule, name, hdb, hdname.symm.trans hname⟩

theorem bindComponents_name (h : bindComponents share db cs st = some (.ok st'))
    (hc : c ∈ bound cs) : ∃ dbPccRule name, qciRule db = some dbPccRule ∧
      dbPccRule.name = some name :=
  (binds_of_bindComponents h).exists_name (List.ne_nil_of_mem hc)

end

/-! ## The request -/

section
variable {env : PcrfEnv maxNumOfFlow} {gx gx' : GxSess maxNumOfFlow} {sid : CString}
  {rar : Option (List (RuleDefinition maxNumOfFlow))} {code : UInt32}

/-- The rules of an Rx session. -/
def rxRules (gx : GxSess maxNumOfFlow) (sid : CString) : List (PccRule maxNumOfFlow) :=
  ((gx.rxList.find? fun entry => entry.sid == sid).map (·.pccRule)).getD []

/-- The rules of the subscriber, `pcrf_db_qos_data`. -/
def subscriberRules (env : PcrfEnv maxNumOfFlow) (gx : GxSess maxNumOfFlow) :
    Option (List (PccRule maxNumOfFlow)) := do
  let imsiBcd ← gx.imsiBcd
  let apn ← gx.apn
  env.qosData imsiBcd apn

theorem findOrAdd_spec {rxList : List (RxEntry maxNumOfFlow)} {entry : RxEntry maxNumOfFlow}
    (h : (findOrAdd rxList sid).1[(findOrAdd rxList sid).2]? = some entry) :
    entry.sid = sid ∧
    entry.pccRule = ((rxList.find? fun entry => entry.sid == sid).map (·.pccRule)).getD [] ∧
    ∀ entry' : RxEntry maxNumOfFlow, entry'.sid = sid →
      (((findOrAdd rxList sid).1.set (findOrAdd rxList sid).2 entry').find?
        fun entry => entry.sid == sid) = some entry' := by
  unfold findOrAdd at h ⊢
  split at h
  · rename_i j hj
    obtain ⟨hlt, hget, -⟩ := List.findIdx?_eq_some_iff_getElem.mp hj
    rw [List.getElem?_eq_getElem hlt, Option.some.injEq] at h
    subst h
    have hfind := fun entry' => @find_set_findIdx _ _ rxList j entry' hj
    refine ⟨by simpa using hget, ?_, fun entry' hsid => (hfind entry' (by simpa using hsid)).2.1⟩
    rw [(hfind rxList[j] hget).1, List.getElem?_eq_getElem hlt]
    rfl
  · rename_i hnone
    rw [List.getElem?_concat_length, Option.some.injEq] at h
    subst h
    have hfind : (rxList.find? fun entry => entry.sid == sid) = none :=
      List.find?_eq_none.mpr fun r hr => by simpa using List.findIdx?_eq_none_iff.mp hnone r hr
    refine ⟨rfl, by rw [hfind]; rfl, fun entry' hsid => ?_⟩
    rw [List.set_append_right _ _ le_rfl, Nat.sub_self, List.find?_append, hfind]
    simp [hsid]

theorem bindComponents_error {share : UInt64 → UInt64 → UInt64 → UInt64}
    {db : List (PccRule maxNumOfFlow)} {cs : List (MediaComponent maxNumOfFlow)}
    {st st' : AaState maxNumOfFlow}
    (h : bindComponents share db cs st = some (.error (st', code))) :
    code ≠ erDiameterSuccess := by
  induction cs generalizing st with
  | nil => cases h
  | cons c cs ih =>
    obtain ⟨r, hr, h⟩ := Option.bind_eq_some_iff.mp h
    cases r with
    | error e =>
      cases h
      exact (bindComponent_error hr).2.2
    | ok st₁ => exact ih h

/-- What a request that succeeds has gone through. -/
theorem sendRarAa_ok {cs : List (MediaComponent maxNumOfFlow)}
    (h : sendRarAa env sid cs gx = some (gx', rar, erDiameterSuccess)) :
    ∃ db st, subscriberRules env gx = some db ∧
      bindComponents env.share db cs ⟨rxRules gx sid, []⟩ = some (.ok st) ∧
      rxRules gx' sid = st.pccRule ∧ rar.getD [] = st.install := by
  obtain ⟨entry, hentry, h⟩ := Option.bind_eq_some_iff.mp h
  obtain ⟨imsiBcd, himsi, h⟩ := Option.bind_eq_some_iff.mp h
  obtain ⟨apn, hapn, h⟩ := Option.bind_eq_some_iff.mp h
  obtain ⟨hsid, hrules, hset⟩ := findOrAdd_spec hentry
  split at h
  · cases h
  · rename_i db hdb
    obtain ⟨r, hr, h⟩ := Option.bind_eq_some_iff.mp h
    cases r with
    | error e =>
      obtain ⟨st, code⟩ := e
      simp only [Option.some.injEq, Prod.mk.injEq] at h
      exact absurd h.2.2 (bindComponents_error hr)
    | ok st =>
      refine ⟨db, st, by simp [subscriberRules, himsi, hapn, hdb], ?_, ?_⟩
      · rw [rxRules, ← hrules]
        exact hr
      · have hrx := congrArg (fun found : Option (RxEntry maxNumOfFlow) =>
          (found.map (·.pccRule)).getD []) (hset { entry with pccRule := st.pccRule } hsid)
        simp only at h
        split at h
        · rename_i hnil
          cases h
          exact ⟨hrx, hnil.symm⟩
        · obtain ⟨_, -, h⟩ := Option.bind_eq_some_iff.mp h
          cases h
          exact ⟨hrx, rfl⟩

end

/-! ## The flows at the PGW -/

section
variable {env : PcrfEnv maxNumOfFlow} {p p' : PcrfContext maxNumOfFlow} {sid gxSid : CString}
  {known : Bool} {avps : List Avp} {gx : GxSess maxNumOfFlow} {msg : RxMessage maxNumOfFlow}
  {rar : Option (List (RuleDefinition maxNumOfFlow))} {code : UInt32}

/-- The rule of the media components, as the PGW has it. -/
def ruleAt (env : PcrfEnv maxNumOfFlow) (gx : GxSess maxNumOfFlow)
    (pgw : CString → Option InstalledRule) : Option InstalledRule := do
  let db ← subscriberRules env gx
  let dbPccRule ← qciRule db
  let name ← dbPccRule.name
  pgw name

/-- The flows of that rule are exactly those of the component. -/
def HasFlows (rule : Option InstalledRule) (c : MediaComponent maxNumOfFlow) : Prop :=
  ∀ flow, flow ∈ (rule.map (·.flow)).getD [] ↔ flow ∈ (gxFlows c).getD []

/-- After the request the PGW has the flows of every component. If none was sent, it had them, and
the bit rates of the rule, before. -/
def Refreshed (env : PcrfEnv maxNumOfFlow) (sid : CString) (gx gx' : GxSess maxNumOfFlow)
    (msg : RxMessage maxNumOfFlow) (pgw : CString → Option InstalledRule)
    (rar : Option (List (RuleDefinition maxNumOfFlow))) : Prop :=
  (∀ c ∈ bound msg.mediaComponent, HasFlows (ruleAt env gx (applyRar pgw rar)) c) ∧
  (rar = none → ∀ c ∈ bound msg.mediaComponent, HasFlows (ruleAt env gx pgw) c ∧
    (ruleAt env gx pgw).map (·.qos) = (qciRule (rxRules gx' sid)).map (·.qos))

/-- The components have the same flows, and these are installed for one of them or at the PGW
already. -/
def Refreshes (env : PcrfEnv maxNumOfFlow) (sid : CString) (gx : GxSess maxNumOfFlow)
    (msg : RxMessage maxNumOfFlow) (pgw : CString → Option InstalledRule) : Prop :=
  (∀ c ∈ bound msg.mediaComponent, ∀ c' ∈ bound msg.mediaComponent, ∀ flow,
    flow ∈ (gxFlows c).getD [] ↔ flow ∈ (gxFlows c').getD []) ∧
  ((∃ c ∈ bound msg.mediaComponent,
      Reinstalls ((qciRule (rxRules gx sid)).map (·.flow)) ((gxFlows c).getD [])) ∨
    ∀ c ∈ bound msg.mediaComponent, HasFlows (ruleAt env gx pgw) c)

/-- What a request that is accepted has gone through. -/
theorem aarCb_ok (hgx : p.gx gxSid = some gx)
    (hmsg : Rx.decodeAar maxNumOfFlow (retrieveOrNew p sid).peerHost avps = some msg)
    (h : aarCb env sid (some gxSid) known avps p = some (p', erDiameterSuccess, rar)) :
    ∃ gx', p'.gx gxSid = some gx' ∧
      sendRarAa env sid msg.mediaComponent gx = some (gx', rar, erDiameterSuccess) := by
  rw [aarCb] at h
  simp only [hmsg, hgx, Option.bind_eq_bind, Option.bind_some] at h
  obtain ⟨⟨gx', rar', code⟩, hsend, h⟩ := Option.bind_eq_some_iff.mp h
  split at h
  · rename_i hcode
    cases h
    exact ⟨gx', Function.update_self _ _ _, hsend⟩
  · rename_i hcode
    cases h
    exact absurd rfl hcode

end

end Pcrf

open Pcrf

/-- After an AA-Request that is accepted the PGW has exactly the flows of the media components if
and only if these have the same flows, and some component is installed anew (not as many of its
flows as the rule has are among those of the rule) or the PGW has these flows already. -/
theorem aarCb_flows_iff {maxNumOfFlow : Nat} (env : PcrfEnv maxNumOfFlow)
    (p p' : PcrfContext maxNumOfFlow) (sid gxSid : CString) (known : Bool) (avps : List Avp)
    (gx : GxSess maxNumOfFlow) (msg : RxMessage maxNumOfFlow)
    (rar : Option (List (RuleDefinition maxNumOfFlow))) (pgw : CString → Option InstalledRule)
    (hgx : p.gx gxSid = some gx)
    (hmsg : Rx.decodeAar maxNumOfFlow (retrieveOrNew p sid).peerHost avps = some msg)
    (h : aarCb env sid (some gxSid) known avps p = some (p', erDiameterSuccess, rar))
    (hflows : ∀ c ∈ bound msg.mediaComponent, rxFlows c ≠ []) :
    ∃ gx', p'.gx gxSid = some gx' ∧
      (Refreshed env sid gx gx' msg pgw rar ↔ Refreshes env sid gx msg pgw) := by
  obtain ⟨gx', hgx', hsend⟩ := aarCb_ok hgx hmsg h
  obtain ⟨db, st, hdb, hbind, hrules, hinstall⟩ := sendRarAa_ok hsend
  refine ⟨gx', hgx', ?_⟩
  by_cases hnil : bound msg.mediaComponent = []
  · rw [Refreshed, Refreshes, hnil]
    simp
  · obtain ⟨c, hc⟩ := List.exists_mem_of_ne_nil _ hnil
    obtain ⟨dbPccRule, name, hdbPccRule, hname⟩ := bindComponents_name hbind hc
    have hruleAt (pgw : CString → Option InstalledRule) : ruleAt env gx pgw = pgw name := by
      simp [ruleAt, hdb, hdbPccRule, hname]
    have hrar : rar ≠ none := by
      rintro rfl
      have hlength := bindComponents_install hbind
      rw [← hinstall] at hlength
      apply hnil
      simpa using hlength.symm
    have hloop := @bindComponents_flows _ _ _ _ _ _ pgw name hbind hflows
      (fun dbPccRule' h' => by rw [hdbPccRule] at h'; cases h'; exact hname)
    have hiff := refill_iff (flowsOf pgw name ⟨rxRules gx sid, []⟩)
      ((bound msg.mediaComponent).map fun c => (gxFlows c).getD [])
    rw [← hloop] at hiff
    simp only [List.forall_mem_map] at hiff
    simp only [List.mem_map, exists_exists_and_eq_and, flowsOf, List.foldl_nil] at hiff
    rw [Refreshed, Refreshes, and_iff_left (fun hnone => absurd hnone hrar)]
    simp only [HasFlows, hruleAt, applyRar, hinstall]
    exact hiff

namespace Pcrf

/-! A subscriber with one rule, for voice, and a Gx session of it without an Rx session. -/

def gxSid : CString := CString.copy [103]
def rxSid : CString := CString.copy [114]

def voice : PcrfEnv 4 where
  qosData _ _ := some [{ PccRule.cleared 4 with
    name := some (CString.copy [118])
    qos := ⟨pdnQci1, ⟨0, 0, 0⟩, ⟨1, 1⟩, ⟨1, 1⟩⟩ }]
  share rate _ _ := rate

def idle : GxSess 4 where
  peerHost := some (CString.copy [112])
  imsiBcd := some (CString.copy [49])
  apn := some (CString.copy [105])
  rxList := []

def started (gx : GxSess 4) : PcrfContext 4 where
  gx sid := if sid = gxSid then some gx else none
  rx _ := none

def permitOut1 : Bytes := permitOut ++ [32, 49]
def permitOut2 : Bytes := permitOut ++ [32, 50]

/-- A media component with one sub-component. -/
def component (mediaType : UInt32) (flows : List Bytes) : Avp :=
  .grouped ⟨Rx.mediaComponentDescription, 10415⟩
    [.word ⟨Rx.mediaComponentNumber, 10415⟩ 1, .word ⟨Rx.mediaType, 10415⟩ mediaType,
      .grouped ⟨Rx.mediaSubComponent, 10415⟩ (.word ⟨Rx.flowNumber, 10415⟩ 1 ::
        flows.map (.octetString ⟨Rx.flowDescription, 10415⟩))]

/-- The AVPs of an AA-Request. -/
def aar (components : List Avp) : List Avp := .octetString ⟨Rx.acOriginHost, 0⟩ [97] :: components

end Pcrf

/-- The first request of an Rx session brings its flow to the PGW. -/
theorem aarCb_flows_first : ∃ p' rar gx' msg,
    aarCb voice rxSid (some gxSid) true (aar [component mediaTypeAudio [permitOut1]])
      (started idle) = some (p', erDiameterSuccess, rar) ∧
    p'.gx gxSid = some gx' ∧ Refreshed voice rxSid idle gx' msg (fun _ => none) rar := by
  obtain ⟨gx', hgx', hiff⟩ := aarCb_flows_iff voice (started idle) _ rxSid gxSid true
    (aar [component mediaTypeAudio [permitOut1]]) idle _ _ (fun _ => none) rfl rfl rfl (by decide)
  refine ⟨_, _, gx', _, rfl, hgx', hiff.mpr ⟨?_, Or.inl ⟨_, List.mem_cons_self, trivial⟩⟩⟩
  intro c hc c' hc' flow
  rw [List.mem_singleton.mp hc, List.mem_singleton.mp hc']

/-- A second flow is not brought to the PGW: the one flow that the rule has is found among those
of the component. -/
theorem aarCb_flows_stale : ∃ p₁ rar₁ p₂ rar₂ gx₁ gx₂ msg,
    aarCb voice rxSid (some gxSid) true (aar [component mediaTypeAudio [permitOut1]])
      (started idle) = some (p₁, erDiameterSuccess, rar₁) ∧
    aarCb voice rxSid (some gxSid) true (aar [component mediaTypeAudio [permitOut1, permitOut2]])
      p₁ = some (p₂, erDiameterSuccess, rar₂) ∧
    p₁.gx gxSid = some gx₁ ∧ p₂.gx gxSid = some gx₂ ∧
    Rx.decodeAar 4 (retrieveOrNew p₁ rxSid).peerHost
      (aar [component mediaTypeAudio [permitOut1, permitOut2]]) = some msg ∧
    (∀ c ∈ bound msg.mediaComponent, rxFlows c ≠ []) ∧
    ¬Refreshed voice rxSid gx₁ gx₂ msg (applyRar (fun _ => none) rar₁) rar₂ := by
  refine ⟨_, _, _, _, _, _, _, rfl, rfl, rfl, rfl, rfl, by decide, ?_⟩
  intro h
  have hflow := (h.1 _ List.mem_cons_self ⟨flowDownlinkOnly, some (CString.copy permitOut2)⟩).mpr
    (by decide)
  revert hflow
  decide

end NextEpc

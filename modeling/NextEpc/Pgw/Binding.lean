import NextEpc.Pgw.TftRun

/-!
# Rules are bound to bearers

`bearer_binding` looks for the bearer of a rule that is installed by QCI and ARP, and for that of a
rule that is removed by name. Here its loop goes round by round and the templates are written to
their buffers. Over it is a table of what the bearers of a session are bound to, on which is said
what rules can be bound. A rule does to the table what it does to the bearers.
-/

namespace NextEpc

/-- A bearer with what it is found by, and its filters. -/
structure Binding where
  bearer : PgwBearerId
  name : Option CString
  qci : UInt8
  arp : Arp
  filters : List (UInt8 × Option PgwRule)
  deriving DecidableEq

namespace PgwContext
section
variable (compile : CString → Option PgwRule) (s : PgwContext) {maxNumOfFlow : Nat}

/-! ## The loop -/

/-- The template of a bearer is written to its buffer. -/
def tftBuilds (bearer : PgwBearerId) : Bool :=
  match s.encodeTft bearer >>= ogsGtpBuildTft maxTrafficFlowTemplate with
  | .ok _ => true
  | .error _ => false

/-- A request is built if its template is. -/
def builds : PgwOutput → Bool
  | .createBearerRequest bearer .. => s.tftBuilds bearer
  | .updateBearerRequest bearer _ _ tft => tft.isNone || s.tftBuilds bearer
  | .deleteBearerRequest .. => true

/-- The body of the loop of `bearer_binding`, with the requests that are built. -/
def bindRound [Ogslib] (sess : PgwSessId) (rule : PccRule maxNumOfFlow) (bearer : PgwBearerId)
    (pfs : List PgwPfId) : Option (PgwContext × List PgwOutput) := do
  let (t, out) ← s.bindRule compile sess rule bearer pfs
  if out.all t.builds = true then some (t, out) else none

/-- `bearer_binding` with the slots for each rule: the state before each round, and what is sent in
it. -/
def bearerBindingRounds [Ogslib] (sess : PgwSessId) :
    List (PccRule maxNumOfFlow × PgwBearerId × List PgwPfId) → PgwContext →
      Option (PgwContext × List (PgwContext × List PgwOutput))
  | [], s => some (s, [])
  | (rule, bearer, pfs) :: rules, s => do
    let (t, out) ← s.bindRound compile sess rule bearer pfs
    if rule.name.isSome ∧ rule.type = pccRuleTypeRemove then some (t, [(s, out)])
    else do
      let (u, rounds) ← bearerBindingRounds sess rules t
      some (u, (s, out) :: rounds)

/-! ## What a rule leads to -/

/-- What is sent for a rule. -/
inductive Answers (sess : PgwSessId) (rule : PccRule maxNumOfFlow) : List PgwOutput → Prop
  | created (bearer : PgwBearerId) (linkedEbi ebi : UInt8) (teid : UInt32) (qos : Qos)
    (tft : List TftPacketFilter) : rule.type = pccRuleTypeInstall →
    s.pgwBearerFindByQciArp sess rule.qos.qci rule.qos.arp = none →
    Answers sess rule [.createBearerRequest bearer linkedEbi ebi teid qos tft]
  | updated (bearer : PgwBearerId) (ebi : UInt8) (qos : Option Qos)
    (tft : Option (List TftPacketFilter)) : rule.type = pccRuleTypeInstall →
    s.pgwBearerFindByQciArp sess rule.qos.qci rule.qos.arp = some bearer →
    rule.flow ≠ [] ∨ qosChanged rule.qos (s.bearers.mem bearer).qos = true →
    Answers sess rule [.updateBearerRequest bearer ebi qos tft]
  | ignored (bearer : PgwBearerId) : rule.type = pccRuleTypeInstall →
    s.pgwBearerFindByQciArp sess rule.qos.qci rule.qos.arp = some bearer →
    rule.flow = [] → qosChanged rule.qos (s.bearers.mem bearer).qos = false → Answers sess rule []
  | removed (bearer : PgwBearerId) (name : CString) : rule.type = pccRuleTypeRemove →
    rule.name = some name → s.pgwBearerFindByName sess name = some bearer →
    Answers sess rule [.deleteBearerRequest bearer (s.bearers.mem bearer).ebi]
  | skipped (name : CString) : rule.type = pccRuleTypeRemove → rule.name = some name →
    s.pgwBearerFindByName sess name = none → Answers sess rule []

/-- The filters of a bearer. -/
def bearerFilters (b : PgwBearerId) : List (UInt8 × Option PgwRule) :=
  (s.bearers.mem b).pfList.map fun pf => ((s.pfs.mem pf).direction, some (s.pfs.mem pf).rule)

end
end PgwContext

section
variable (compile : CString → Option PgwRule) {maxNumOfFlow : Nat}

/-- The filters that the flows of a rule are for. -/
def PccRule.filters (rule : PccRule maxNumOfFlow) : List (UInt8 × Option PgwRule) :=
  rule.flow.map fun f => (f.direction % 4, f.description.bind compile)

/-- The filters of the last rule with a name that was installed with flows. -/
def lastInstalled (name : Option CString)
    (rules : List (PccRule maxNumOfFlow × PgwBearerId × List PgwPfId)) :
    Option (List (UInt8 × Option PgwRule)) :=
  ((rules.filter fun r => r.1.type = pccRuleTypeInstall ∧ r.1.name = name ∧
    r.1.flow ≠ []).getLast?).map fun r => r.1.filters compile

end

namespace PgwContext
section
variable (compile : CString → Option PgwRule) (s : PgwContext) {maxNumOfFlow : Nat}

/-- Every rule is answered, and then every bearer has the filters of its rule. A bearer of which
the rule was not installed with flows has those it had. -/
def Binds [Ogslib] (sess : PgwSessId)
    (rules : List (PccRule maxNumOfFlow × PgwBearerId × List PgwPfId)) :
    Prop :=
  ∃ t rounds, s.bearerBindingRounds compile sess rules = some (t, rounds) ∧
    s.bearerBinding compile sess rules = some (t, rounds.flatMap Prod.snd) ∧
    List.Forall₂ (fun r round => Answers round.1 sess r.1 round.2) rules rounds ∧
    ∀ b ∈ (t.sessMem sess).bearerList, t.bearerFilters b =
      (lastInstalled compile (t.bearers.mem b).name rules).getD (s.bearerFilters b)

/-! ## The table -/

/-- A bearer of a session. The first one is found by the QoS of the session. -/
def binding (sess : PgwSessId) (i : Nat) (b : PgwBearerId) : Binding where
  bearer := b
  name := (s.bearers.mem b).name
  qci := if i = 0 then (s.sessMem sess).qci else (s.bearers.mem b).qos.qci
  arp := if i = 0 then (s.sessMem sess).arp else (s.bearers.mem b).qos.arp
  filters := s.bearerFilters b

def bindings (sess : PgwSessId) : List Binding :=
  (s.sessMem sess).bearerList.mapIdx (s.binding sess)

end
end PgwContext

section
variable (compile : CString → Option PgwRule) {maxNumOfFlow : Nat}

/-- A rule is for this bearer. -/
def Binding.isFor (rule : PccRule maxNumOfFlow) (e : Binding) : Bool :=
  e.qci = rule.qos.qci ∧ e.arp = rule.qos.arp

/-- A rule is installed: its bearer gets its filters, if it has any, or there is a new bearer in the
slot. The first bearer of a session is found by `qci` and `arp`. -/
def Binding.install (qci : UInt8) (arp : Arp) (rule : PccRule maxNumOfFlow)
    (bearer : PgwBearerId) (table : List Binding) : List Binding :=
  match table.find? (Binding.isFor rule) with
  | some e =>
    if rule.flow = [] then table
    else table.map fun e' => if e' = e then { e' with filters := rule.filters compile } else e'
  | none => table ++ [⟨bearer, rule.name, if table = [] then qci else rule.qos.qci,
      if table = [] then arp else rule.qos.arp, rule.filters compile⟩]

/-- The table after some rules. -/
def Binding.installs (qci : UInt8) (arp : Arp) :
    List (PccRule maxNumOfFlow × PgwBearerId × List PgwPfId) → List Binding → List Binding
  | [], table => table
  | (rule, bearer, _) :: rules, table =>
    installs qci arp rules
      (if rule.type = pccRuleTypeInstall then install compile qci arp rule bearer table else table)

/-- The octets that the filter of a flow takes in a template. -/
def Flow.tftLen (f : Flow) : Nat :=
  3 + ((f.description.bind compile).map PgwRule.tftLen).getD 0

/-- The flows of a rule can be compiled, and the filters fit into the array and into the buffer.
The number of filters is written with 4 bits. -/
structure PccRule.FlowsFit (rule : PccRule maxNumOfFlow) : Prop where
  compiles : ∀ f ∈ rule.flow, ∃ r, f.description.bind compile = some r
  count : rule.flow.length ≤ maxNumOfPacketFilter
  room : 1 + ((rule.flow.map (Flow.tftLen compile)).take (rule.flow.length % 16)).sum ≤
    maxTrafficFlowTemplate

/-- A rule that is installed has the name of its bearer, or it has flows. -/
structure PccRule.Installable (table : List Binding) (rule : PccRule maxNumOfFlow) : Prop where
  named : ∀ e, table.find? (Binding.isFor rule) = some e → e.name = rule.name
  flows : table.find? (Binding.isFor rule) = none → rule.flow ≠ []
  fit : rule.FlowsFit compile

/-- The rules can be installed one after the other. Only the last one is removed, and there is a
bearer with its name. -/
def Bindable (qci : UInt8) (arp : Arp) :
    List (PccRule maxNumOfFlow × PgwBearerId × List PgwPfId) → List Binding → Prop
  | [], _ => True
  | (rule, bearer, _) :: rules, table =>
    if rule.type = pccRuleTypeInstall then
      rule.Installable compile table ∧
        Bindable qci arp rules (Binding.install compile qci arp rule bearer table)
    else (∃ e ∈ table, e.name = rule.name) ∧ rules = []

/-- Bearers with the name of a rule have the filters of its last version. -/
def Agreed (rules : List (PccRule maxNumOfFlow × PgwBearerId × List PgwPfId))
    (table : List Binding) : Prop :=
  ∀ e ∈ table, ∀ filters, lastInstalled compile e.name rules = some filters → e.filters = filters

end

namespace PgwContext
section
variable (compile : CString → Option PgwRule) (s : PgwContext) {maxNumOfFlow : Nat}

/-- The pools give out slots for a rule: those of the filters that are replaced are free again. -/
structure SlotsFor (sess : PgwSessId) (rule : PccRule maxNumOfFlow) (bearer : PgwBearerId)
    (pfs : List PgwPfId) : Prop where
  length : rule.flow.length = pfs.length
  nodup : pfs.Nodup
  bearer : s.pgwBearerFindByQciArp sess rule.qos.qci rule.qos.arp = none →
    IsPoolIndex bearer ∧ s.bearers.live bearer = false
  pfs : ∀ pf ∈ pfs, s.pfs.live pf = false ∨
    ∃ b, s.pgwBearerFindByQciArp sess rule.qos.qci rule.qos.arp = some b ∧
      pf ∈ (s.bearers.mem b).pfList

/-- The pools give out slots in each round. -/
def SlotsGiven [Ogslib] (sess : PgwSessId) :
    List (PccRule maxNumOfFlow × PgwBearerId × List PgwPfId) → PgwContext → Prop
  | [], _ => True
  | (rule, bearer, pfs) :: rules, s =>
    (rule.type = pccRuleTypeInstall → s.SlotsFor sess rule bearer pfs) ∧
      ∀ t out, s.bindRound compile sess rule bearer pfs = some (t, out) →
        SlotsGiven sess rules t

end
end PgwContext

/-! ## Bearers and the table -/

namespace PgwContext
variable {cfg : PgwConfig} {compile : CString → Option PgwRule} {maxNumOfFlow : Nat}
  {s t u : PgwContext} {sess : PgwSessId} {bearer b : PgwBearerId} {pfs : List PgwPfId}
  {name : CString} {rule : PccRule maxNumOfFlow} {out : List PgwOutput} {e : Binding}
  {rules : List (PccRule maxNumOfFlow × PgwBearerId × List PgwPfId)}

/-- A rule that is installed finds its bearer in the table. -/
theorem findByQciArp_eq (s : PgwContext) (sess : PgwSessId) (rule : PccRule maxNumOfFlow) :
    s.pgwBearerFindByQciArp sess rule.qos.qci rule.qos.arp =
      ((s.bindings sess).find? (Binding.isFor rule)).map Binding.bearer := by
  rw [pgwBearerFindByQciArp, bindings]
  cases (s.sessMem sess).bearerList with
  | nil => rfl
  | cons defaultBearer bearers =>
    have htail : bearers.mapIdx (fun i => s.binding sess (i + 1)) =
        bearers.map (s.binding sess 1) := by
      apply List.ext_getElem?
      intro i
      rw [List.getElem?_mapIdx, List.getElem?_map]
      rfl
    rw [List.mapIdx_cons, htail, List.find?_cons]
    dsimp only
    by_cases hfor : (s.sessMem sess).qci = rule.qos.qci ∧ (s.sessMem sess).arp = rule.qos.arp
    · have hhead : (s.binding sess 0 defaultBearer).isFor rule = true := decide_eq_true hfor
      rw [if_pos hfor, hhead]
      rfl
    · have hhead : (s.binding sess 0 defaultBearer).isFor rule = false := decide_eq_false hfor
      rw [if_neg hfor, hhead, List.find?_map, Option.map_map]
      exact Option.map_id'.symm

/-- A rule that is removed looks for an entry with its name. -/
theorem findByName_isSome_iff (s : PgwContext) (sess : PgwSessId) (name : CString) :
    (∃ b, s.pgwBearerFindByName sess name = some b) ↔
      ∃ e ∈ s.bindings sess, e.name = some name := by
  rw [← Option.isSome_iff_exists, pgwBearerFindByName, List.find?_isSome]
  constructor
  · rintro ⟨b, hb, hname⟩
    obtain ⟨i, hi, rfl⟩ := List.mem_iff_getElem.mp hb
    exact ⟨_, List.mem_mapIdx.mpr ⟨i, hi, rfl⟩, of_decide_eq_true hname⟩
  · rintro ⟨e, he, hname⟩
    obtain ⟨i, hi, rfl⟩ := List.mem_mapIdx.mp he
    exact ⟨_, List.getElem_mem hi, decide_eq_true hname⟩

/-- What is the same for all filters that the flows of a rule made. -/
theorem AddsFilters.map_pfList [Ogslib] {flows : List (Flow × PgwPfId)} {α : Type}
    {g : PgwPfRecord → α} {f : Flow → α} (h : AddsFilters compile s bearer flows t)
    (hnil : (s.bearers.mem bearer).pfList = [])
    (hrecord : ∀ flow rule identifier, flow.description.bind compile = some rule →
      g ⟨flow.direction % 4, identifier, rule, bearer⟩ = f flow) :
    ((t.bearers.mem bearer).pfList.map fun pf => g (t.pfs.mem pf)) =
      flows.map fun p => f p.1 := by
  rw [h.record, hnil, List.nil_append, List.map_map]
  apply List.map_congr_left
  intro p hp
  obtain ⟨i, hi⟩ := List.mem_iff_getElem?.mp hp
  obtain ⟨rule, hrule, hmem⟩ := h.new i p hi
  rw [Function.comp_apply, hmem]
  exact hrecord p.1 rule _ hrule

theorem map_fst_zip {α : Type} {f : Flow → α} {flows : List Flow} (h : flows.length = pfs.length) :
    (flows.zip pfs).map (fun p => f p.1) = flows.map f := by
  have hfst := List.map_fst_zip (le_of_eq h)
  conv_rhs => rw [← hfst, List.map_map]
  rfl

theorem AddsFilters.bearerFilters [Ogslib] (h : AddsFilters compile s bearer (rule.flow.zip pfs) t)
    (hnil : (s.bearers.mem bearer).pfList = []) (hlength : rule.flow.length = pfs.length) :
    t.bearerFilters bearer = rule.filters compile := by
  have hmap := h.map_pfList (g := fun m => (m.direction, some m.rule))
    (f := fun flow => (flow.direction % 4, flow.description.bind compile)) hnil
    fun flow rule identifier hrule => by rw [hrule]
  exact hmap.trans (map_fst_zip
    (f := fun flow => (flow.direction % 4, flow.description.bind compile)) hlength)

/-- A bearer that is left has its filters. -/
theorem bearerFilters_congr (hlist : (t.bearers.mem b).pfList = (s.bearers.mem b).pfList)
    (hfilters : ∀ pf ∈ (s.bearers.mem b).pfList, t.pfs.mem pf = s.pfs.mem pf) :
    t.bearerFilters b = s.bearerFilters b := by
  rw [PgwContext.bearerFilters, hlist]
  apply List.map_congr_left
  intro pf hpf
  rw [hfilters pf hpf]

theorem mem_bindings : e ∈ s.bindings sess ↔
    ∃ i, ∃ h : i < (s.sessMem sess).bearerList.length,
      s.binding sess i (s.sessMem sess).bearerList[i] = e := List.mem_mapIdx

/-- A rule for which there is no bearer gets an entry. -/
theorem CreatesBearer.bindings [Ogslib]
    (h : CreatesBearer compile s sess name rule bearer pfs t out)
    (hs : s.Tree) (hsess : s.sess.live sess = true) (hname : rule.name = some name)
    (hfind : (s.bindings sess).find? (Binding.isFor rule) = none) :
    t.bindings sess = Binding.install compile (s.sessMem sess).qci (s.sessMem sess).arp rule bearer
      (s.bindings sess) := by
  have hadds := h.filters
  have hlinks := h.links hs.toLinks hsess
  have hsessMem : t.sessMem sess = { s.sessMem sess with
      bearerList := (s.sessMem sess).bearerList ++ [bearer] } := by
    rw [hadds.sessMem]
    exact Function.update_self _ _ _
  have hempty : s.bindings sess = [] ↔ (s.sessMem sess).bearerList.length = 0 := by
    rw [← List.length_eq_zero_iff, PgwContext.bindings, List.length_mapIdx]
  rw [Binding.install, hfind]
  change _ = s.bindings sess ++ [_]
  rw [PgwContext.bindings, hsessMem, List.mapIdx_append, List.mapIdx_singleton]
  congr 1
  · apply List.mapIdx_eq_mapIdx_iff.mpr
    intro i hi
    have hlive := hs.live_of_mem hsess (List.getElem_mem hi)
    have hne : (s.sessMem sess).bearerList[i] ≠ bearer := by
      intro heq
      rw [heq, h.slot.2] at hlive
      cases hlive
    have hrecord := hadds.other _ hne
    have hbase : (((s.bearerAdded bearer sess).setBearer bearer fun m =>
        { m with name := some name, qos := rule.qos }).bearers.mem
          (s.sessMem sess).bearerList[i]) = s.bearers.mem (s.sessMem sess).bearerList[i] := by
      simp [setBearer, bearerAdded, hne]
    have hkept : t.bearerFilters (s.sessMem sess).bearerList[i] =
        s.bearerFilters (s.sessMem sess).bearerList[i] := by
      apply bearerFilters_congr
      · rw [hrecord, hbase]
      · intro pf hpf
        rw [← hbase] at hpf
        apply (hlinks.filter_kept hadds _ pf hpf).2
        simpa [setBearer, bearerAdded, hne] using hlive
    rw [binding, binding, hsessMem, hrecord, hbase, hkept]
  · have hnil : (((s.bearerAdded bearer sess).setBearer bearer fun m =>
        { m with name := some name, qos := rule.qos }).bearers.mem bearer).pfList = [] := by
      simp [setBearer, bearerAdded, PgwBearerRecord.add]
    have hqos : (t.bearers.mem bearer).name = rule.name ∧ (t.bearers.mem bearer).qos = rule.qos := by
      rw [hadds.record, hname]
      simp [setBearer, bearerAdded]
    rw [binding, hsessMem, hqos.1, hqos.2, hadds.bearerFilters hnil h.flows.2, Nat.zero_add]
    simp only [hempty]

theorem map_mapIdx {α β γ : Type} (l : List α) (f : Nat → α → β) (g : β → γ) :
    (l.mapIdx f).map g = l.mapIdx fun i a => g (f i a) := by
  apply List.ext_getElem?
  intro i
  rw [List.getElem?_map, List.getElem?_mapIdx, List.getElem?_mapIdx, Option.map_map]
  rfl

/-- Only the filters and the QoS of its bearer change. -/
theorem UpdatesBearer.record [Ogslib] (h : UpdatesBearer compile s name rule b pfs t out)
    (hs : s.Links) (hlive : s.bearers.live b = true) (b' : PgwBearerId) :
    (t.bearers.mem b').name = (s.bearers.mem b').name ∧
      ((t.bearers.mem b').qos = (s.bearers.mem b').qos ∨
        b' = b ∧ (t.bearers.mem b').qos = rule.qos) := by
  have heq := rebound_eq hs hlive rule
  by_cases hb : b' = b
  · rw [hb, h.filters.record, heq]
    simp only [Pool.mem_modify, if_true]
    split
    · exact ⟨trivial, Or.inr ⟨trivial, rfl⟩⟩
    · exact ⟨trivial, Or.inl rfl⟩
  · rw [h.filters.other b' hb, heq]
    simp [hb]

/-- The filters of the other bearers stay. -/
theorem UpdatesBearer.bearerFilters_other [Ogslib]
    (h : UpdatesBearer compile s name rule b pfs t out) (hs : s.Links)
    (hlive : s.bearers.live b = true) {b' : PgwBearerId} (hb : b' ≠ b)
    (hlive' : s.bearers.live b' = true) : t.bearerFilters b' = s.bearerFilters b' := by
  have heq := rebound_eq hs hlive rule
  have hkept := (hs.rebound hlive rule).1.filter_kept (b := b') h.filters
  apply bearerFilters_congr
  · rw [h.filters.other b' hb, heq]
    simp [hb]
  · intro pf hpf
    rw [heq] at hkept
    simp only [Pool.live_modify, Pool.mem_modify, if_neg hb] at hkept
    rw [(hkept hlive' pf hpf).2]
    split
    · rfl
    · rw [Pool.mem_foldl_free]

/-- The bearer of the rule gets the filters of the rule, if there are any. -/
theorem UpdatesBearer.bearerFilters [Ogslib] (h : UpdatesBearer compile s name rule b pfs t out)
    (hs : s.Links) (hlive : s.bearers.live b = true) : t.bearerFilters b =
    if rule.flow = [] then s.bearerFilters b else rule.filters compile := by
  have heq := rebound_eq hs hlive rule
  split
  next hnone =>
    have hadds := h.filters
    rw [show rule.flow.zip pfs = [] by rw [hnone, List.zip_nil_left]] at hadds
    apply bearerFilters_congr
    · rw [hadds.pfList_nil, heq]
      simp [hnone]
    · intro pf _
      rw [hadds.filter pf List.not_mem_nil, heq]
      simp [hnone]
  next hsome =>
    apply h.filters.bearerFilters _ h.flows
    simp [heq, hsome]

/-- A rule for which there is a bearer replaces its filters. -/
theorem UpdatesBearer.bindings [Ogslib] (h : UpdatesBearer compile s name rule e.bearer pfs t out)
    (hs : s.Tree) (hsess : s.sess.live sess = true)
    (hfind : (s.bindings sess).find? (Binding.isFor rule) = some e) (bearer : PgwBearerId) :
    t.bindings sess = Binding.install compile (s.sessMem sess).qci (s.sessMem sess).arp rule bearer
      (s.bindings sess) := by
  obtain ⟨k, hk, hentry⟩ := mem_bindings.mp (List.mem_of_find?_eq_some hfind)
  have hbearer : (s.sessMem sess).bearerList[k] = e.bearer := congrArg Binding.bearer hentry
  have hlisted {i : Nat} (hi : i < (s.sessMem sess).bearerList.length) :
      s.bearers.live (s.sessMem sess).bearerList[i] = true :=
    hs.live_of_mem hsess (List.getElem_mem hi)
  have hlive : s.bearers.live e.bearer = true := hbearer ▸ hlisted hk
  have hsessMem : t.sessMem sess = s.sessMem sess := by
    rw [h.filters.sessMem, rebound_eq hs.toLinks hlive rule]
  -- the bearer of the rule has its QCI and its ARP, unless those of the session are looked at
  have hqos {i : Nat} (hi : i < (s.sessMem sess).bearerList.length) (hne : i ≠ 0) :
      (t.bearers.mem (s.sessMem sess).bearerList[i]).qos.qci =
          (s.bearers.mem (s.sessMem sess).bearerList[i]).qos.qci ∧
        (t.bearers.mem (s.sessMem sess).bearerList[i]).qos.arp =
          (s.bearers.mem (s.sessMem sess).bearerList[i]).qos.arp := by
    rcases (h.record hs.toLinks hlive (s.sessMem sess).bearerList[i]).2 with hsame | ⟨hb, hrule⟩
    · rw [hsame]
      exact ⟨rfl, rfl⟩
    · have hik : i = k := by
        apply (hs.bearers.nodup sess hsess).getElem_inj_iff.mp
        rw [hb, hbearer]
      have hisFor : e.isFor rule = true := List.find?_some hfind
      have hfor : e.qci = rule.qos.qci ∧ e.arp = rule.qos.arp := of_decide_eq_true hisFor
      rw [← hentry, binding, if_neg (hik ▸ hne), if_neg (hik ▸ hne), hbearer, ← hb] at hfor
      rw [hrule]
      exact ⟨hfor.1.symm, hfor.2.symm⟩
  have hentries {i : Nat} (hi : i < (s.sessMem sess).bearerList.length)
      {filters : List (UInt8 × Option PgwRule)}
      (hfilters : t.bearerFilters (s.sessMem sess).bearerList[i] = filters) :
      t.binding sess i (s.sessMem sess).bearerList[i] =
        { s.binding sess i (s.sessMem sess).bearerList[i] with filters := filters } := by
    rw [binding, binding, hsessMem, (h.record hs.toLinks hlive _).1, hfilters]
    by_cases hzero : i = 0
    · simp only [if_pos hzero]
    · simp only [if_neg hzero, hqos hi hzero]
  have hfilters := h.bearerFilters hs.toLinks hlive
  rw [Binding.install, hfind]
  change _ = if rule.flow = [] then _ else _
  rw [PgwContext.bindings, hsessMem]
  split
  next hnone =>
    rw [if_pos hnone] at hfilters
    apply List.mapIdx_eq_mapIdx_iff.mpr
    intro i hi
    apply hentries hi
    by_cases hb : (s.sessMem sess).bearerList[i] = e.bearer
    · rw [hb, hfilters]
    · exact h.bearerFilters_other hs.toLinks hlive hb (hlisted hi)
  next hsome =>
    rw [if_neg hsome] at hfilters
    rw [PgwContext.bindings, map_mapIdx]
    apply List.mapIdx_eq_mapIdx_iff.mpr
    intro i hi
    by_cases heq : s.binding sess i (s.sessMem sess).bearerList[i] = e
    · rw [if_pos heq]
      apply hentries hi
      rw [show (s.sessMem sess).bearerList[i] = e.bearer from congrArg Binding.bearer heq, hfilters]
    · have hb : (s.sessMem sess).bearerList[i] ≠ e.bearer := by
        intro hb
        rw [← hbearer, (hs.bearers.nodup sess hsess).getElem_inj_iff] at hb
        subst hb
        exact heq hentry
      rw [if_neg heq]
      exact hentries hi (h.bearerFilters_other hs.toLinks hlive hb (hlisted hi))

end PgwContext
end NextEpc

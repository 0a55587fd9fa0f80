import NextEpc.Pcrf.Rar

/-!
# AA-Requests that are accepted

The rules of an Rx session are one rule at most. With flows that fit into it, and with the name
that the subscriber has for it, every component of a request can be bound.
-/

namespace NextEpc

namespace Pcrf
variable {maxNumOfFlow : Nat}

theorem flowRxToGx_cases {rxFlow : CString} {gxFlow : Flow} (h : flowRxToGx rxFlow = some gxFlow) :
    (gxFlow.direction = flowDownlinkOnly ∨ gxFlow.direction = flowUplinkOnly) ∧
      gxFlow.description.isSome := by
  rw [flowRxToGx] at h
  split at h
  · cases h
    exact ⟨Or.inl rfl, rfl⟩
  · split at h
    · cases h
      exact ⟨Or.inr rfl, rfl⟩
    · cases h

theorem gxFlows_described {l : List (UInt32 × CString)} {g : List Flow}
    (h : l.mapM (fun rxFlow => flowRxToGx rxFlow.2) = some g) :
    ∀ gxFlow ∈ g, gxFlow.description.isSome := by
  induction l generalizing g with
  | nil =>
    cases h
    simp
  | cons rxFlow l ih =>
    rw [List.mapM_cons, Option.bind_eq_bind, Option.bind_eq_some_iff] at h
    obtain ⟨gxFlow, hflow, h⟩ := h
    obtain ⟨gxFlows, hflows, h⟩ := Option.bind_eq_some_iff.mp h
    cases h
    exact List.forall_mem_cons.mpr ⟨(flowRxToGx_cases hflow).2, ih hflows⟩

/-! ## Functions that return -/

section
variable {c : MediaComponent maxNumOfFlow} {g : List Flow}

theorem copyFlows_ok {l : List (UInt32 × CString)} {pccRule : PccRule maxNumOfFlow}
    (h : l.mapM (fun rxFlow => flowRxToGx rxFlow.2) = some g)
    (hle : pccRule.flow.length + l.length ≤ maxNumOfFlow) :
    ∃ pccRule', copyFlows l pccRule = some (.ok pccRule') := by
  induction l generalizing g pccRule with
  | nil => exact ⟨pccRule, rfl⟩
  | cons rxFlow l ih =>
    rw [List.mapM_cons, Option.bind_eq_bind, Option.bind_eq_some_iff] at h
    obtain ⟨gxFlow, hflow, h⟩ := h
    obtain ⟨gxFlows, hflows, -⟩ := Option.bind_eq_some_iff.mp h
    rw [List.length_cons] at hle
    have hlt : pccRule.flow.length < maxNumOfFlow := by omega
    rw [copyFlows, hflow]
    simp only [hlt, ↓reduceDIte]
    apply ih hflows
    rw [List.length_append, List.length_singleton]
    omega

theorem installFlow_ok (hg : gxFlows c = some g) (hle : (rxFlows c).length ≤ maxNumOfFlow)
    (pccRule : PccRule maxNumOfFlow) : ∃ pccRule', installFlow pccRule c = some (.ok pccRule') := by
  apply copyFlows_ok hg
  rw [List.length_nil, Nat.zero_add]
  exact hle

theorem addFlows_ok (share : UInt64 → UInt64 → UInt64 → UInt64) {l : List (UInt32 × CString)}
    (h : l.mapM (fun rxFlow => flowRxToGx rxFlow.2) = some g) (qos : Qos) :
    ∃ qos', addFlows share c l qos = some (.ok qos') := by
  induction l generalizing g qos with
  | nil => exact ⟨qos, rfl⟩
  | cons rxFlow l ih =>
    rw [List.mapM_cons, Option.bind_eq_bind, Option.bind_eq_some_iff] at h
    obtain ⟨gxFlow, hflow, h⟩ := h
    obtain ⟨gxFlows, hflows, -⟩ := Option.bind_eq_some_iff.mp h
    obtain ⟨qos₁, hqos₁⟩ : ∃ qos₁, addFlow share c rxFlow.1 gxFlow qos = some qos₁ := by
      obtain ⟨hdirection, hdescription⟩ := flowRxToGx_cases hflow
      rw [addFlow]
      rcases hdirection with hdown | hup
      · rw [if_pos hdown, if_pos hdescription]
        split <;> exact ⟨_, rfl⟩
      · have hnot : gxFlow.direction ≠ flowDownlinkOnly := by
          rw [hup]
          decide
        rw [if_neg hnot, if_pos hup, if_pos hdescription]
        split <;> exact ⟨_, rfl⟩
    rw [addFlows, hflow]
    simp only [hqos₁]
    exact ih hflows qos₁

theorem encode_ok {pccRule : PccRule maxNumOfFlow} {flowPresence : Bool}
    (hname : pccRule.name.isSome)
    (hflow : flowPresence = true → ∀ gxFlow ∈ pccRule.flow, gxFlow.description.isSome) :
    ∃ avp, Gx.encodePccRuleDefinition pccRule flowPresence = some avp := by
  obtain ⟨name, hname⟩ := Option.isSome_iff_exists.mp hname
  cases flowPresence with
  | false => simp [Gx.encodePccRuleDefinition, hname]
  | true =>
    obtain ⟨avps, havps⟩ := Gx.mapM_encodeFlow pccRule.flow (hflow rfl)
    simp [Gx.encodePccRuleDefinition, hname, havps]

end

/-! ## The rule of an Rx session -/

/-- There is no rule, or one of the QCI, which has a name. -/
def Single (rules : List (PccRule maxNumOfFlow)) : Prop :=
  rules = [] ∨ ∃ pccRule, rules = [pccRule] ∧ pccRule.name.isSome ∧ pccRule.qos.qci = pdnQci1

/-- A component that can be bound: its flows fit into a rule, and the rule of the subscriber has a
name, which is that of the rule that is there. -/
def Bindable (db rules : List (PccRule maxNumOfFlow)) (c : MediaComponent maxNumOfFlow) : Prop :=
  ¬Refused db c ∧ (rxFlows c).length ≤ maxNumOfFlow ∧
    ∀ dbPccRule, qciRule db = some dbPccRule → dbPccRule.name.isSome ∧
      ∀ pccRule ∈ rules, pccRule.name = dbPccRule.name

section
variable {share : UInt64 → UInt64 → UInt64 → UInt64} {db rules : List (PccRule maxNumOfFlow)}
  {c : MediaComponent maxNumOfFlow} {cs : List (MediaComponent maxNumOfFlow)}
  {st : AaState maxNumOfFlow}

theorem Single.names (h : Single rules) : ∃ names, rules.mapM (fun r => r.name) = some names := by
  rcases h with rfl | ⟨pccRule, rfl, hname, -⟩
  · exact ⟨[], rfl⟩
  · obtain ⟨name, hname⟩ := Option.isSome_iff_exists.mp hname
    exact ⟨[name], by simp [hname]⟩

theorem bindRule_bindable {dbPccRule : PccRule maxNumOfFlow} {g : List Flow}
    (hsingle : Single rules) (hdb : dbPccRule.qos.qci = pdnQci1) (hname : dbPccRule.name.isSome)
    (hnames : ∀ pccRule ∈ rules, pccRule.name = dbPccRule.name) (hg : gxFlows c = some g)
    (hle : (rxFlows c).length ≤ maxNumOfFlow) :
    ∃ pccRule flowPresence, bindRule dbPccRule c rules = some (.ok ([pccRule], 0, flowPresence)) ∧
      pccRule.name = dbPccRule.name ∧ pccRule.qos.qci = pdnQci1 ∧
      (flowPresence = true → pccRule.flow = g) := by
  have hinstall (pccRule : PccRule maxNumOfFlow) :
      ∃ hle, installFlow pccRule c = some (.ok { pccRule with flow := g, flow_le := hle }) := by
    obtain ⟨pccRule', hok⟩ := installFlow_ok hg hle pccRule
    rcases installFlow_cases hok with ⟨g', hle', hg', hr⟩ | ⟨-, _, hr⟩
    · cases hg.symm.trans hg'
      exact ⟨hle', hok.trans (congrArg some hr)⟩
    · cases hr
  rcases hsingle with rfl | ⟨pccRule, rfl, -, hqci⟩
  · let new : PccRule maxNumOfFlow := { PccRule.cleared maxNumOfFlow with
      name := dbPccRule.name
      qos := dbPccRule.qos
      flowStatus := dbPccRule.flowStatus
      precedence := dbPccRule.precedence }
    obtain ⟨hle', hok⟩ := hinstall new
    refine ⟨{ new with flow := g, flow_le := hle' }, true, ?_, rfl, hdb, fun _ => rfl⟩
    simp only [new] at hok
    rw [bindRule, List.findIdx?_nil]
    simp only [List.length_nil, hname, and_true, maxNumOfPccRule, Nat.zero_lt_succ, ↓reduceIte, hok]
    rfl
  · have hfind : [pccRule].findIdx? (fun pccRule => pccRule.qos.qci == pdnQci1) = some 0 := by
      simp [List.findIdx?_cons, hqci]
    have hrule : pccRule.name = dbPccRule.name := hnames pccRule List.mem_cons_self
    have hcond : pccRule.name.isSome ∧ pccRule.name = dbPccRule.name := ⟨hrule ▸ hname, hrule⟩
    obtain ⟨count, hcount⟩ : ∃ count, matchedFlow pccRule c = some count := by
      by_cases hflows : rxFlows c = []
      · exact ⟨_, matchedFlow_none hflows pccRule⟩
      · rw [matchedFlow_eq hflows, hg]
        exact ⟨_, rfl⟩
    obtain ⟨hle', hok⟩ := hinstall pccRule
    by_cases hdiffers : pccRule.flow.length ≠ count
    · refine ⟨{ pccRule with flow := g, flow_le := hle' }, true, ?_, hrule, hqci, fun _ => rfl⟩
      rw [bindRule, hfind]
      simp only [List.getElem?_cons_zero, Option.bind_eq_bind, Option.bind_some, if_pos hcond,
        hcount, if_pos hdiffers, hok]
      rfl
    · refine ⟨pccRule, false, ?_, hrule, hqci, fun h => by cases h⟩
      rw [bindRule, hfind]
      simp only [List.getElem?_cons_zero, Option.bind_eq_bind, Option.bind_some, if_pos hcond,
        hcount, if_neg hdiffers]

theorem defineRule_bindable {dbPccRule pccRule : PccRule maxNumOfFlow} {g : List Flow}
    {flowPresence : Bool} (hname : pccRule.name.isSome) (hqci : pccRule.qos.qci = pdnQci1)
    (hg : gxFlows c = some g) (hflow : flowPresence = true → pccRule.flow = g)
    (install : List (RuleDefinition maxNumOfFlow)) :
    ∃ st' pccRule', defineRule share dbPccRule c [pccRule] 0 flowPresence install =
      some (.ok st') ∧ st'.pccRule = [pccRule'] ∧ pccRule'.name = pccRule.name ∧
      pccRule'.qos.qci = pdnQci1 := by
  obtain ⟨qos, hqos⟩ := @addFlows_ok _ c _ share _ hg
    { pccRule.qos with mbr := ⟨0, 0⟩, gbr := ⟨0, 0⟩ }
  have hupdate : updateQos share pccRule c =
      some (.ok { pccRule with qos := defaultRates c qos }) := by
    rw [updateQos, hqos]
    rfl
  have hkept : qos.qci = pccRule.qos.qci := by
    rcases addFlows_cases hqos with ⟨_, _, -, hr, hkept, -⟩ | ⟨-, _, hr⟩
    · cases hr
      exact hkept
    · cases hr
  obtain ⟨avp, havp⟩ := @encode_ok _
    (applyDb dbPccRule { pccRule with qos := defaultRates c qos }) flowPresence hname
    (fun hpresent gxFlow hmem => gxFlows_described hg gxFlow (hflow hpresent ▸ hmem))
  refine ⟨⟨[applyDb dbPccRule { pccRule with qos := defaultRates c qos }],
    install ++ [⟨_, flowPresence, avp, havp⟩]⟩, _, ?_, rfl, rfl, hkept.trans hqci⟩
  rw [defineRule]
  simp only [List.getElem?_cons_zero, Option.bind_eq_bind, Option.bind_some, hupdate]
  split
  · rename_i hnone
    cases havp.symm.trans hnone
  · rename_i avp' havp'
    cases havp.symm.trans havp'
    rfl

/-- A component that can be bound is bound to the one rule, which has the name of the subscriber. -/
theorem bindComponent_bindable (hsingle : Single st.pccRule)
    (hc : c.mediaComponentNumber ≠ 0) (h : Bindable db st.pccRule c) :
    ∃ st' dbPccRule, bindComponent share db st c = some (.ok st') ∧ Single st'.pccRule ∧
      qciRule db = some dbPccRule ∧ ∀ pccRule ∈ st'.pccRule, pccRule.name = dbPccRule.name := by
  obtain ⟨hrefused, hle, hrules⟩ := h
  simp only [Refused, not_and, not_or, not_not] at hrefused
  obtain ⟨htype, hsome, hflows⟩ := hrefused hc
  obtain ⟨dbPccRule, hdb⟩ := Option.ne_none_iff_exists'.mp hsome
  obtain ⟨g, hg⟩ := Option.ne_none_iff_exists'.mp hflows
  obtain ⟨hname, hnames⟩ := hrules dbPccRule hdb
  have hqci : dbPccRule.qos.qci = pdnQci1 := by simpa using List.find?_some hdb
  obtain ⟨pccRule, flowPresence, hbind, hrule, hruleQci, hflow⟩ :=
    bindRule_bindable hsingle hqci hname hnames hg hle
  obtain ⟨st', pccRule', hdefine, hst', hrule', hruleQci'⟩ :=
    @defineRule_bindable _ share c dbPccRule pccRule g flowPresence (hrule ▸ hname) hruleQci hg
      hflow st.install
  refine ⟨st', dbPccRule, ?_, Or.inr ⟨pccRule', hst', ?_, hruleQci'⟩, hdb, ?_⟩
  · rw [qciRule] at hdb
    rw [bindComponent, if_neg hc, if_neg (not_not.mpr htype), hdb]
    simp only [hbind, Option.bind_eq_bind, Option.bind_some]
    exact hdefine
  · rw [hrule', hrule]
    exact hname
  · intro r hr
    rw [hst'] at hr
    rw [List.mem_singleton.mp hr, hrule', hrule]

/-- All components of a request are bound. -/
theorem bindComponents_bindable (hsingle : Single st.pccRule)
    (h : ∀ c ∈ bound cs, Bindable db st.pccRule c) :
    ∃ st', bindComponents share db cs st = some (.ok st') ∧ Single st'.pccRule := by
  induction cs generalizing st with
  | nil => exact ⟨st, rfl, hsingle⟩
  | cons c cs ih =>
    by_cases hnumber : c.mediaComponentNumber = 0
    · have hbound : bound (c :: cs) = bound cs := by simp [bound, hnumber]
      have hround : bindComponent share db st c = some (.ok st) := by
        rw [bindComponent, if_pos hnumber]
      rw [bindComponents, hround]
      exact ih hsingle (hbound ▸ h)
    · have hbound : bound (c :: cs) = c :: bound cs := by simp [bound, hnumber]
      rw [hbound] at h
      obtain ⟨st', dbPccRule, hround, hsingle', hdb, hnames⟩ :=
        @bindComponent_bindable _ share _ _ _ hsingle hnumber (h c List.mem_cons_self)
      rw [bindComponents, hround]
      apply ih hsingle'
      intro c' hc'
      obtain ⟨hrefused, hle, hname⟩ := h c' (List.mem_cons_of_mem _ hc')
      refine ⟨hrefused, hle, fun dbPccRule' hdb' => ⟨(hname _ hdb').1, ?_⟩⟩
      cases hdb.symm.trans hdb'
      exact hnames

end

end Pcrf

end NextEpc

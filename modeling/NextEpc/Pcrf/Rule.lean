import NextEpc.Pgw.GxMessage

/-!
# Charging rules that the PCRF binds to media components

The loop of `pcrf_gx_send_rar` over the media components of an AA-Request, and the functions that
it calls: `flow_rx_to_gx`, `matched_flow`, `install_flow` and `update_qos`. A rule is written in
place, so that a function that fails leaves what it has written.
-/

namespace NextEpc

namespace Pcrf

/-- `OGS_FLOW_DOWNLINK_ONLY` -/
def flowDownlinkOnly : UInt8 := 1

/-- `OGS_FLOW_UPLINK_ONLY` -/
def flowUplinkOnly : UInt8 := 2

/-- `OGS_DIAM_RX_FLOW_USAGE_RTCP` -/
def flowUsageRtcp : UInt32 := 1

/-- `OGS_DIAM_RX_MEDIA_TYPE_AUDIO` -/
def mediaTypeAudio : UInt32 := 0

/-- `OGS_PDN_QCI_1` -/
def pdnQci1 : UInt8 := 1

/-! The result codes of Diameter and of Rx. -/

def unknownPeer : UInt32 := 3010
def unknownSessionId : UInt32 := 5002
def invalidAvpValue : UInt32 := 5005
def filterRestrictions : UInt32 := 5062
def requestedServiceNotAuthorized : UInt32 := 5063
def ipCanSessionNotAvailable : UInt32 := 5065

/-! ## Flows -/

/-- `permit out` -/
def permitOut : Bytes := [112, 101, 114, 109, 105, 116, 32, 111, 117, 116]

/-- `permit in` -/
def permitIn : Bytes := [112, 101, 114, 109, 105, 116, 32, 105, 110]

/-- `flow_rx_to_gx` -/
def flowRxToGx (rxFlow : CString) : Option Flow :=
  if permitOut.isPrefixOf rxFlow.octets then some ⟨flowDownlinkOnly, some rxFlow⟩
  else if permitIn.isPrefixOf rxFlow.octets then
    some ⟨flowUplinkOnly, some
      { octets := permitOut ++ rxFlow.octets.drop permitIn.length
        nonzero := by
          rw [List.mem_append, not_or]
          exact ⟨by decide, fun h => rxFlow.nonzero (List.mem_of_mem_drop h)⟩ }⟩
  else none

variable {maxNumOfFlow : Nat}

/-- The flows that the loops over a component go through, with their usage: a sub-component whose
number is zero is left out. -/
def rxFlows (mediaComponent : MediaComponent maxNumOfFlow) : List (UInt32 × CString) :=
  (mediaComponent.sub.filter fun sub => sub.flowNumber ≠ 0).flatMap fun sub =>
    sub.flow.map fun rxFlow => (sub.flowUsage, rxFlow)

/-- The flows of a component as Gx has them, if all of them can be translated. -/
def gxFlows (mediaComponent : MediaComponent maxNumOfFlow) : Option (List Flow) :=
  (rxFlows mediaComponent).mapM fun rxFlow => flowRxToGx rxFlow.2

/-- `matched_flow`; `none` is its -1. -/
def matchedFlow (pccRule : PccRule maxNumOfFlow) (mediaComponent : MediaComponent maxNumOfFlow) :
    Option Nat :=
  if (rxFlows mediaComponent).length = 0 then some pccRule.flow.length
  else (rxFlows mediaComponent).foldlM (fun matched rxFlow => do
    let gxFlow ← flowRxToGx rxFlow.2
    some (if gxFlow ∈ pccRule.flow then matched + 1 else matched)) 0

theorem flow_append_le {pccRule : PccRule maxNumOfFlow} {flow : Flow}
    (h : pccRule.flow.length < maxNumOfFlow) : (pccRule.flow ++ [flow]).length ≤ maxNumOfFlow := by
  rw [List.length_append, List.length_singleton]
  exact h

/-- The loops of `install_flow`. There is no flow behind the array. -/
def copyFlows : List (UInt32 × CString) → PccRule maxNumOfFlow →
    Option (Except (PccRule maxNumOfFlow) (PccRule maxNumOfFlow))
  | [], pccRule => some (.ok pccRule)
  | rxFlow :: rxFlows, pccRule =>
    match flowRxToGx rxFlow.2 with
    | none => some (.error pccRule)
    | some gxFlow =>
      if h : pccRule.flow.length < maxNumOfFlow then
        copyFlows rxFlows { pccRule with
          flow := pccRule.flow ++ [gxFlow]
          flow_le := flow_append_le h }
      else none

/-- `install_flow` -/
def installFlow (pccRule : PccRule maxNumOfFlow) (mediaComponent : MediaComponent maxNumOfFlow) :
    Option (Except (PccRule maxNumOfFlow) (PccRule maxNumOfFlow)) :=
  copyFlows (rxFlows mediaComponent) { pccRule with
    flow := []
    flow_le := Nat.zero_le _ }

/-! ## Bit rates -/

section
variable (share : UInt64 → UInt64 → UInt64 → UInt64)

/-- The bit rate of an RTCP flow. `share rate bandwidth other` is `rate` with the larger one of
`0.05 * bandwidth` and `other`, in floating point. -/
def rtcpRate (rrBandwidth rsBandwidth maxRequestedBandwidth rate : UInt64) : UInt64 :=
  if rrBandwidth ≠ 0 ∧ rsBandwidth ≠ 0 then rate + (rrBandwidth + rsBandwidth)
  else if maxRequestedBandwidth ≠ 0 then
    if rrBandwidth ≠ 0 ∧ rsBandwidth = 0 then share rate maxRequestedBandwidth rrBandwidth
    else if rrBandwidth = 0 ∧ rsBandwidth ≠ 0 then share rate maxRequestedBandwidth rsBandwidth
    else share rate maxRequestedBandwidth 0
  else rate

/-- What one flow adds to the bit rates. A flow has one of two directions. -/
def addFlow (c : MediaComponent maxNumOfFlow) (flowUsage : UInt32) (gxFlow : Flow) (qos : Qos) :
    Option Qos :=
  if gxFlow.direction = flowDownlinkOnly then
    if flowUsage = flowUsageRtcp then
      let rate := rtcpRate share c.rrBandwidth c.rsBandwidth c.maxRequestedBandwidthDl
        qos.mbr.downlink
      some { qos with mbr := { qos.mbr with downlink := rate } }
    else if gxFlow.description.isSome then
      some { qos with
        mbr := { qos.mbr with downlink := qos.mbr.downlink + c.maxRequestedBandwidthDl }
        gbr := { qos.gbr with downlink := qos.gbr.downlink + c.minRequestedBandwidthDl } }
    else some qos
  else if gxFlow.direction = flowUplinkOnly then
    if flowUsage = flowUsageRtcp then
      let rate := rtcpRate share c.rrBandwidth c.rsBandwidth c.maxRequestedBandwidthUl
        qos.mbr.uplink
      some { qos with mbr := { qos.mbr with uplink := rate } }
    else if gxFlow.description.isSome then
      some { qos with
        mbr := { qos.mbr with uplink := qos.mbr.uplink + c.maxRequestedBandwidthUl }
        gbr := { qos.gbr with uplink := qos.gbr.uplink + c.minRequestedBandwidthUl } }
    else some qos
  else none

/-- The loops of `update_qos`. -/
def addFlows (c : MediaComponent maxNumOfFlow) :
    List (UInt32 × CString) → Qos → Option (Except Qos Qos)
  | [], qos => some (.ok qos)
  | rxFlow :: rxFlows, qos =>
    match flowRxToGx rxFlow.2 with
    | none => some (.error qos)
    | some gxFlow => do
      let qos ← addFlow share c rxFlow.1 gxFlow qos
      addFlows c rxFlows qos

/-- What `update_qos` does for bit rates that are still zero. -/
def defaultRates (c : MediaComponent maxNumOfFlow) (qos : Qos) : Qos :=
  let mbr : Bitrate :=
    { downlink := if qos.mbr.downlink = 0 then
        qos.mbr.downlink + c.maxRequestedBandwidthDl + (c.rrBandwidth + c.rsBandwidth)
      else qos.mbr.downlink
      uplink := if qos.mbr.uplink = 0 then
        qos.mbr.uplink + c.maxRequestedBandwidthUl + (c.rrBandwidth + c.rsBandwidth)
      else qos.mbr.uplink }
  { qos with
    mbr := mbr
    gbr :=
      { downlink := if qos.gbr.downlink = 0 then mbr.downlink else qos.gbr.downlink
        uplink := if qos.gbr.uplink = 0 then mbr.uplink else qos.gbr.uplink } }

/-- `update_qos` -/
def updateQos (pccRule : PccRule maxNumOfFlow) (c : MediaComponent maxNumOfFlow) :
    Option (Except (PccRule maxNumOfFlow) (PccRule maxNumOfFlow)) := do
  match ← addFlows share c (rxFlows c) { pccRule.qos with mbr := ⟨0, 0⟩, gbr := ⟨0, 0⟩ } with
  | .error qos => some (.error { pccRule with qos := qos })
  | .ok qos => some (.ok { pccRule with qos := defaultRates c qos })

/-- The bit rates of the subscriber where the AF has given none. -/
def applyDb (dbPccRule pccRule : PccRule maxNumOfFlow) : PccRule maxNumOfFlow :=
  let rate (x y : UInt64) := if x = 0 then y else x
  { pccRule with qos := { pccRule.qos with
      mbr := ⟨rate pccRule.qos.mbr.downlink dbPccRule.qos.mbr.downlink,
        rate pccRule.qos.mbr.uplink dbPccRule.qos.mbr.uplink⟩
      gbr := ⟨rate pccRule.qos.gbr.downlink dbPccRule.qos.gbr.downlink,
        rate pccRule.qos.gbr.uplink dbPccRule.qos.gbr.uplink⟩ } }

/-! ## The loop over the components -/

/-- A rule that a Charging-Rule-Install holds, with the AVP that it is encoded to. -/
structure RuleDefinition (maxNumOfFlow : Nat) where
  pccRule : PccRule maxNumOfFlow
  flowPresence : Bool
  avp : Avp
  encoded : Gx.encodePccRuleDefinition pccRule flowPresence = some avp

/-- The rules of the Rx session, and those that are installed so far. -/
structure AaState (maxNumOfFlow : Nat) where
  pccRule : List (PccRule maxNumOfFlow)
  install : List (RuleDefinition maxNumOfFlow)

/-- The rule of a QCI is looked for in the Rx session, or made from the one of the subscriber, and
its flows are installed if they are not the ones it has. With the rules come the place of the
rule and `flow_presence`. -/
def bindRule (dbPccRule : PccRule maxNumOfFlow) (c : MediaComponent maxNumOfFlow)
    (rules : List (PccRule maxNumOfFlow)) :
    Option (Except (List (PccRule maxNumOfFlow) × UInt32)
      (List (PccRule maxNumOfFlow) × Nat × Bool)) :=
  match rules.findIdx? fun pccRule => pccRule.qos.qci == pdnQci1 with
  | none =>
    if rules.length < maxNumOfPccRule ∧ dbPccRule.name.isSome then do
      match ← installFlow { PccRule.cleared maxNumOfFlow with
        name := dbPccRule.name
        qos := dbPccRule.qos
        flowStatus := dbPccRule.flowStatus
        precedence := dbPccRule.precedence } c with
      | .error _ => some (.error (rules, filterRestrictions))
      | .ok pccRule => some (.ok (rules ++ [pccRule], rules.length, true))
    else none
  | some j => do
    let pccRule ← rules[j]?
    if pccRule.name.isSome ∧ pccRule.name = dbPccRule.name then
      match matchedFlow pccRule c with
      | none => some (.error (rules, filterRestrictions))
      | some count =>
        if pccRule.flow.length ≠ count then do
          match ← installFlow pccRule c with
          | .error pccRule => some (.error (rules.set j pccRule, filterRestrictions))
          | .ok pccRule => some (.ok (rules.set j pccRule, j, true))
        else some (.ok (rules, j, false))
    else none

/-- The bit rates of a rule are updated and its definition is encoded. -/
def defineRule (dbPccRule : PccRule maxNumOfFlow) (c : MediaComponent maxNumOfFlow)
    (rules : List (PccRule maxNumOfFlow)) (j : Nat) (flowPresence : Bool)
    (install : List (RuleDefinition maxNumOfFlow)) :
    Option (Except (AaState maxNumOfFlow × UInt32) (AaState maxNumOfFlow)) := do
  let pccRule ← rules[j]?
  match ← updateQos share pccRule c with
  | .error pccRule => some (.error (⟨rules.set j pccRule, install⟩, requestedServiceNotAuthorized))
  | .ok pccRule =>
    let pccRule := applyDb dbPccRule pccRule
    match h : Gx.encodePccRuleDefinition pccRule flowPresence with
    | none => none
    | some avp =>
      some (.ok ⟨rules.set j pccRule, install ++ [⟨pccRule, flowPresence, avp, h⟩]⟩)

/-- One round of the loop. -/
def bindComponent (db : List (PccRule maxNumOfFlow)) (st : AaState maxNumOfFlow)
    (c : MediaComponent maxNumOfFlow) :
    Option (Except (AaState maxNumOfFlow × UInt32) (AaState maxNumOfFlow)) :=
  if c.mediaComponentNumber = 0 then some (.ok st)
  else if c.mediaType ≠ mediaTypeAudio then some (.error (st, invalidAvpValue))
  else
    match db.find? fun pccRule => pccRule.qos.qci == pdnQci1 with
    | none => some (.error (st, requestedServiceNotAuthorized))
    | some dbPccRule => do
      match ← bindRule dbPccRule c st.pccRule with
      | .error (rules, code) => some (.error (⟨rules, st.install⟩, code))
      | .ok (rules, j, flowPresence) => defineRule share dbPccRule c rules j flowPresence st.install

/-- The loop. `goto out` leaves it with the state so far. -/
def bindComponents (db : List (PccRule maxNumOfFlow)) :
    List (MediaComponent maxNumOfFlow) → AaState maxNumOfFlow →
    Option (Except (AaState maxNumOfFlow × UInt32) (AaState maxNumOfFlow))
  | [], st => some (.ok st)
  | c :: cs, st => do
    match ← bindComponent share db st c with
    | .error e => some (.error e)
    | .ok st => bindComponents db cs st

end

/-! ## What the functions return -/

section
variable {pccRule pccRule' : PccRule maxNumOfFlow} {c : MediaComponent maxNumOfFlow}

/-- The flows are counted that the rule already has. -/
theorem matchedFlow_eq (h : rxFlows c ≠ []) (pccRule : PccRule maxNumOfFlow) :
    matchedFlow pccRule c = (gxFlows c).map fun gxFlows => gxFlows.countP (· ∈ pccRule.flow) := by
  have hloop (l : List (UInt32 × CString)) (n : Nat) :
      l.foldlM (fun matched rxFlow => do
        let gxFlow ← flowRxToGx rxFlow.2
        some (if gxFlow ∈ pccRule.flow then matched + 1 else matched)) n =
      (l.mapM fun rxFlow => flowRxToGx rxFlow.2).map
        fun gxFlows => n + gxFlows.countP (· ∈ pccRule.flow) := by
    induction l generalizing n with
    | nil => rfl
    | cons rxFlow l ih =>
      rw [List.foldlM_cons, List.mapM_cons]
      cases flowRxToGx rxFlow.2 with
      | none => rfl
      | some gxFlow =>
        refine (ih _).trans ?_
        cases l.mapM fun rxFlow => flowRxToGx rxFlow.2 with
        | none => rfl
        | some gxFlows =>
          simp only [Option.map_some, Option.bind_eq_bind, Option.bind_some, Option.pure_def,
            List.countP_cons, decide_eq_true_eq, Option.some.injEq]
          split <;> omega
  rw [matchedFlow, if_neg (by simpa using h), hloop]
  simp [gxFlows]

theorem matchedFlow_none (h : rxFlows c = []) (pccRule : PccRule maxNumOfFlow) :
    matchedFlow pccRule c = some pccRule.flow.length := by
  rw [matchedFlow, if_pos (by simp [h])]

/-- All flows are copied if all can be translated. -/
theorem copyFlows_cases {l : List (UInt32 × CString)}
    {r : Except (PccRule maxNumOfFlow) (PccRule maxNumOfFlow)}
    (h : copyFlows l pccRule = some r) :
    (∃ g, ∃ hle, l.mapM (fun rxFlow => flowRxToGx rxFlow.2) = some g ∧
      r = .ok { pccRule with flow := pccRule.flow ++ g, flow_le := hle }) ∨
    (l.mapM (fun rxFlow => flowRxToGx rxFlow.2) = none ∧ ∃ pccRule', r = .error pccRule') := by
  induction l generalizing pccRule with
  | nil =>
    cases h
    exact Or.inl ⟨[], by simpa using pccRule.flow_le, rfl, by simp⟩
  | cons rxFlow l ih =>
    rw [copyFlows] at h
    rw [List.mapM_cons]
    split at h
    · rename_i hflow
      cases h
      rw [hflow]
      exact Or.inr ⟨rfl, _, rfl⟩
    · rename_i gxFlow hflow
      rw [hflow]
      split at h
      · rcases ih h with ⟨g, hle, hg, hr⟩ | ⟨hnone, hr⟩
        · refine Or.inl ⟨gxFlow :: g, by simpa using hle, ?_, ?_⟩
          · rw [hg]
            rfl
          · simpa using hr
        · rw [hnone]
          exact Or.inr ⟨rfl, hr⟩
      · cases h

theorem installFlow_cases {r : Except (PccRule maxNumOfFlow) (PccRule maxNumOfFlow)}
    (h : installFlow pccRule c = some r) :
    (∃ g, ∃ hle, gxFlows c = some g ∧ r = .ok { pccRule with flow := g, flow_le := hle }) ∨
    (gxFlows c = none ∧ ∃ pccRule', r = .error pccRule') := by
  rcases copyFlows_cases h with ⟨g, hle, hg, hr⟩ | hnone
  · exact Or.inl ⟨g, by simpa using hle, hg, by simpa using hr⟩
  · exact Or.inr hnone

end

section
variable {share : UInt64 → UInt64 → UInt64 → UInt64} {pccRule : PccRule maxNumOfFlow}
  {c : MediaComponent maxNumOfFlow}

theorem addFlow_kept {flowUsage : UInt32} {gxFlow : Flow} {qos qos' : Qos}
    (h : addFlow share c flowUsage gxFlow qos = some qos') :
    qos'.qci = qos.qci ∧ qos'.arp = qos.arp := by
  rw [addFlow] at h
  repeat' split at h
  all_goals cases h
  all_goals exact ⟨rfl, rfl⟩

theorem addFlows_cases {l : List (UInt32 × CString)} {qos : Qos} {r : Except Qos Qos}
    (h : addFlows share c l qos = some r) :
    (∃ g qos', l.mapM (fun rxFlow => flowRxToGx rxFlow.2) = some g ∧ r = .ok qos' ∧
      qos'.qci = qos.qci ∧ qos'.arp = qos.arp) ∨
    (l.mapM (fun rxFlow => flowRxToGx rxFlow.2) = none ∧ ∃ qos', r = .error qos') := by
  induction l generalizing qos with
  | nil =>
    cases h
    exact Or.inl ⟨[], qos, rfl, rfl, rfl, rfl⟩
  | cons rxFlow l ih =>
    rw [addFlows] at h
    rw [List.mapM_cons]
    split at h
    · rename_i hflow
      cases h
      rw [hflow]
      exact Or.inr ⟨rfl, _, rfl⟩
    · rename_i gxFlow hflow
      rw [hflow]
      obtain ⟨qos₁, hqos₁, h⟩ := Option.bind_eq_some_iff.mp h
      have hkept := addFlow_kept hqos₁
      rcases ih h with ⟨g, qos', hg, hr, hqci, harp⟩ | ⟨hnone, hr⟩
      · rw [hg]
        exact Or.inl ⟨gxFlow :: g, qos', rfl, hr, hqci.trans hkept.1, harp.trans hkept.2⟩
      · rw [hnone]
        exact Or.inr ⟨rfl, hr⟩

/-- Nothing but the bit rates of the rule is updated. -/
theorem updateQos_cases {r : Except (PccRule maxNumOfFlow) (PccRule maxNumOfFlow)}
    (h : updateQos share pccRule c = some r) :
    (∃ g qos, gxFlows c = some g ∧ r = .ok { pccRule with qos := qos } ∧
      qos.qci = pccRule.qos.qci ∧ qos.arp = pccRule.qos.arp) ∨
    (gxFlows c = none ∧ ∃ pccRule', r = .error pccRule') := by
  obtain ⟨r', hr', h⟩ := Option.bind_eq_some_iff.mp h
  rcases addFlows_cases hr' with ⟨g, qos', hg, rfl, hqci, harp⟩ | ⟨hnone, qos', rfl⟩
  · cases h
    exact Or.inl ⟨g, _, hg, rfl, hqci, harp⟩
  · cases h
    exact Or.inr ⟨hnone, _, rfl⟩

end

/-! ## One round -/

/-- The rule of a component in the Rx session. -/
def qciRule (rules : List (PccRule maxNumOfFlow)) : Option (PccRule maxNumOfFlow) :=
  rules.find? fun pccRule => pccRule.qos.qci == pdnQci1

/-- The flows of a component are installed: there is no rule, or as many of them as the rule has
flows are not among those of the rule. -/
def Reinstalls : Option (List Flow) → List Flow → Prop
  | none, _ => True
  | some stored, new => new ≠ [] ∧ new.countP (· ∈ stored) ≠ stored.length

instance : ∀ stored new, Decidable (Reinstalls stored new)
  | none, _ => inferInstanceAs (Decidable True)
  | some _, _ => inferInstanceAs (Decidable (_ ∧ _))

/-- The first entry that meets a condition is replaced by another one that does. -/
theorem find_set_findIdx {α : Type} {q : α → Bool} {l : List α} {j : Nat} {a : α}
    (hj : l.findIdx? q = some j) (ha : q a = true) :
    l.find? q = l[j]? ∧ (l.set j a).find? q = some a ∧ (l.set j a).findIdx? q = some j := by
  induction l generalizing j with
  | nil => cases hj
  | cons b l ih =>
    rw [List.findIdx?_cons] at hj
    cases hb : q b with
    | true =>
      rw [hb] at hj
      cases hj
      simp [hb, ha, List.findIdx?_cons]
    | false =>
      rw [hb] at hj
      obtain ⟨i, hi, rfl⟩ := Option.map_eq_some_iff.mp hj
      obtain ⟨hfind, hset, hidx⟩ := ih hi
      refine ⟨by simp [hb, hfind], by simp [hb, hset], ?_⟩
      rw [List.set_cons_succ, List.findIdx?_cons, hb, hidx]
      rfl

theorem exists_findIdx {α : Type} {q : α → Bool} {l : List α} {a : α} (h : l.find? q = some a) :
    ∃ j, l.findIdx? q = some j ∧ l[j]? = some a := by
  have ha : q a = true := List.find?_some h
  cases hj : l.findIdx? q with
  | none =>
    have hnot := List.findIdx?_eq_none_iff.mp hj a (List.mem_of_find?_eq_some h)
    rw [ha] at hnot
    cases hnot
  | some j => exact ⟨j, rfl, (find_set_findIdx hj ha).1.symm.trans h⟩

theorem set_of_getElem? {α : Type} {l : List α} {j : Nat} {a : α} (h : l[j]? = some a) :
    l.set j a = l := by
  obtain ⟨hlt, rfl⟩ := List.getElem?_eq_some_iff.mp h
  exact List.set_getElem_self hlt

theorem gxFlows_ne_nil {c : MediaComponent maxNumOfFlow} {g : List Flow} (hne : rxFlows c ≠ [])
    (hg : gxFlows c = some g) : g ≠ [] := by
  obtain ⟨rxFlow, l, hl⟩ := List.exists_cons_of_ne_nil hne
  rw [gxFlows, hl, List.mapM_cons, Option.bind_eq_bind, Option.bind_eq_some_iff] at hg
  obtain ⟨gxFlow, -, hg⟩ := hg
  obtain ⟨gxFlows, -, hg⟩ := Option.bind_eq_some_iff.mp hg
  cases hg
  exact List.cons_ne_nil _ _

section
variable {dbPccRule : PccRule maxNumOfFlow} {c : MediaComponent maxNumOfFlow}
  {rules rules' : List (PccRule maxNumOfFlow)} {j : Nat} {flowPresence : Bool} {code : UInt32}

/-- What is done for a component that has flows which can be translated: a rule is made, or the
one that is there may get other flows. -/
theorem bindRule_ok
    (h : bindRule dbPccRule c rules = some (.ok (rules', j, flowPresence))) :
    ∃ g pccRule, gxFlows c = some g ∧ pccRule.name = dbPccRule.name ∧
      flowPresence = decide (Reinstalls ((qciRule rules).map (·.flow)) g) ∧
      ((qciRule rules = none ∧ rules' = rules ++ [pccRule] ∧ j = rules.length ∧
        pccRule.qos = dbPccRule.qos ∧ pccRule.flow = g) ∨
      ∃ stored hle, qciRule rules = some stored ∧
        (rules.findIdx? fun pccRule => pccRule.qos.qci == pdnQci1) = some j ∧
        rules' = rules.set j pccRule ∧ pccRule = { stored with
          flow := if flowPresence then g else stored.flow
          flow_le := hle }) := by
  rw [bindRule] at h
  split at h
  · rename_i hnone
    have hfind : qciRule rules = none :=
      List.find?_eq_none.mpr fun r hr => by simpa using List.findIdx?_eq_none_iff.mp hnone r hr
    split at h
    · obtain ⟨r, hr, h⟩ := Option.bind_eq_some_iff.mp h
      rcases installFlow_cases hr with ⟨g, hle, hg, rfl⟩ | ⟨_, _, rfl⟩
      · cases h
        refine ⟨g, _, hg, ?_, by rw [hfind]; rfl, Or.inl ⟨hfind, rfl, rfl, ?_, ?_⟩⟩
        all_goals rfl
      · cases h
    · cases h
  · rename_i j' hj
    obtain ⟨stored, hstored, h⟩ := Option.bind_eq_some_iff.mp h
    have hqci : (stored.qos.qci == pdnQci1) = true := by
      obtain ⟨hlt, hget, _⟩ := List.findIdx?_eq_some_iff_getElem.mp hj
      rw [List.getElem?_eq_getElem hlt, Option.some.injEq] at hstored
      exact hstored ▸ hget
    obtain ⟨hfind, -⟩ := find_set_findIdx hj hqci
    have hqciRule : qciRule rules = some stored := hfind.trans hstored
    split at h
    · rename_i hname
      split at h
      · cases h
      · rename_i count hcount
        by_cases hflows : rxFlows c = []
        · -- no flow that could be installed
          rw [matchedFlow_none hflows] at hcount
          cases hcount
          rw [if_neg (by simp)] at h
          cases h
          refine ⟨[], stored, by simp [gxFlows, hflows], hname.2, by simp [hqciRule, Reinstalls],
            Or.inr ⟨stored, stored.flow_le, hqciRule, hj, ?_, rfl⟩⟩
          exact (set_of_getElem? hstored).symm
        · rw [matchedFlow_eq hflows] at hcount
          obtain ⟨g, hg, hcount⟩ := Option.map_eq_some_iff.mp hcount
          have hne : g ≠ [] := gxFlows_ne_nil hflows hg
          split at h
          · rename_i hdiffers
            obtain ⟨r, hr, h⟩ := Option.bind_eq_some_iff.mp h
            rcases installFlow_cases hr with ⟨g', hle, hg', rfl⟩ | ⟨_, _, rfl⟩
            · cases h
              cases hg.symm.trans hg'
              let pccRule : PccRule maxNumOfFlow := { stored with flow := g, flow_le := hle }
              refine ⟨g, pccRule, hg, hname.2, ?_,
                Or.inr ⟨stored, hle, hqciRule, hj, rfl, rfl⟩⟩
              simp only [hqciRule, Option.map_some, Reinstalls, true_eq_decide_iff]
              exact ⟨hne, fun heq => hdiffers (heq.symm.trans hcount)⟩
            · cases h
          · rename_i hsame
            cases h
            refine ⟨g, stored, hg, hname.2, ?_,
              Or.inr ⟨stored, stored.flow_le, hqciRule, hj, ?_, rfl⟩⟩
            · simp only [hqciRule, Option.map_some, Reinstalls, false_eq_decide_iff, not_and,
                not_not]
              exact fun _ => hcount.trans (not_not.mp hsame).symm
            · exact (set_of_getElem? hstored).symm
    · cases h

/-- A rule is not changed for a component with a flow that cannot be translated. -/
theorem bindRule_error (h : bindRule dbPccRule c rules = some (.error (rules', code))) :
    rules' = rules ∧ gxFlows c = none ∧ code = filterRestrictions := by
  rw [bindRule] at h
  split at h
  · split at h
    · obtain ⟨r, hr, h⟩ := Option.bind_eq_some_iff.mp h
      rcases installFlow_cases hr with ⟨g, hle, hg, rfl⟩ | ⟨hnone, _, rfl⟩
      · cases h
      · cases h
        exact ⟨rfl, hnone, rfl⟩
    · cases h
  · obtain ⟨stored, hstored, h⟩ := Option.bind_eq_some_iff.mp h
    split at h
    · have hflows (hnone : rxFlows c = []) (count : Option Nat)
          (hcount : matchedFlow stored c = count) : count = some stored.flow.length :=
        hcount.symm.trans (matchedFlow_none hnone stored)
      split at h
      · rename_i hcount
        cases h
        by_cases hnone : rxFlows c = []
        · cases hflows hnone _ hcount
        · rw [matchedFlow_eq hnone, Option.map_eq_none_iff] at hcount
          exact ⟨rfl, hcount, rfl⟩
      · rename_i count hcount
        split at h
        · rename_i hdiffers
          obtain ⟨r, hr, h⟩ := Option.bind_eq_some_iff.mp h
          rcases installFlow_cases hr with ⟨g, hle, hg, rfl⟩ | ⟨hnone, _, rfl⟩
          · cases h
          · by_cases hflow : rxFlows c = []
            · cases hflows hflow _ hcount
              exact absurd rfl hdiffers
            · rw [matchedFlow_eq hflow, hnone] at hcount
              cases hcount
        · cases h
    · cases h

end

/-- A component that ends the loop. -/
def Refused (db : List (PccRule maxNumOfFlow)) (c : MediaComponent maxNumOfFlow) : Prop :=
  c.mediaComponentNumber ≠ 0 ∧
    (c.mediaType ≠ mediaTypeAudio ∨ qciRule db = none ∨ gxFlows c = none)

instance (db : List (PccRule maxNumOfFlow)) (c : MediaComponent maxNumOfFlow) :
    Decidable (Refused db c) :=
  inferInstanceAs (Decidable (_ ∧ _))

section
variable {share : UInt64 → UInt64 → UInt64 → UInt64} {db : List (PccRule maxNumOfFlow)}
  {c : MediaComponent maxNumOfFlow} {st st' : AaState maxNumOfFlow} {code : UInt32}

/-- The definition of a rule is the last one of the request, and the rule has its bit rates. -/
theorem defineRule_ok {dbPccRule : PccRule maxNumOfFlow} {rules : List (PccRule maxNumOfFlow)}
    {j : Nat} {flowPresence : Bool} {install : List (RuleDefinition maxNumOfFlow)}
    (h : defineRule share dbPccRule c rules j flowPresence install = some (.ok st')) :
    ∃ d, st'.install = install ++ [d] ∧ st'.pccRule = rules.set j d.pccRule ∧
      d.flowPresence = flowPresence ∧ ∃ pccRule qos, rules[j]? = some pccRule ∧
        d.pccRule = { pccRule with qos := qos } ∧ qos.qci = pccRule.qos.qci ∧
        ∀ flow hle, ∃ updated,
          updateQos share { pccRule with flow := flow, flow_le := hle } c = some (.ok updated) ∧
          qos = (applyDb dbPccRule updated).qos := by
  obtain ⟨pccRule, hpccRule, h⟩ := Option.bind_eq_some_iff.mp h
  obtain ⟨r, hr, h⟩ := Option.bind_eq_some_iff.mp h
  obtain ⟨r', hr', hr⟩ := Option.bind_eq_some_iff.mp hr
  rcases addFlows_cases hr' with ⟨g, qos', -, rfl, hqci, -⟩ | ⟨-, qos', rfl⟩
  · cases hr
    simp only at h
    split at h
    · cases h
    · rename_i avp havp
      cases h
      refine ⟨_, rfl, rfl, rfl, pccRule, _, hpccRule, rfl, hqci, fun flow hle => ?_⟩
      refine ⟨{ pccRule with
        flow := flow
        flow_le := hle
        qos := defaultRates c qos' }, ?_, rfl⟩
      rw [updateQos, hr']
      rfl
  · cases hr
    cases h

/-- The definition of the rule is the last one of the request, with the flows of the component if
these are installed and otherwise with those of before. -/
theorem bindComponent_ok (h : bindComponent share db st c = some (.ok st'))
    (hnumber : c.mediaComponentNumber ≠ 0) :
    ∃ dbPccRule g d, qciRule db = some dbPccRule ∧ gxFlows c = some g ∧
      st'.install = st.install ++ [d] ∧ qciRule st'.pccRule = some d.pccRule ∧
      d.pccRule.name = dbPccRule.name ∧
      d.flowPresence = decide (Reinstalls ((qciRule st.pccRule).map (·.flow)) g) ∧
      ((qciRule st.pccRule = none ∧ d.pccRule.flow = g ∧
        st'.pccRule.length = st.pccRule.length + 1) ∨
      ∃ j stored qos hle, qciRule st.pccRule = some stored ∧
        (st.pccRule.findIdx? fun pccRule => pccRule.qos.qci == pdnQci1) = some j ∧
        st'.pccRule = st.pccRule.set j d.pccRule ∧
        (∃ pccRule, updateQos share stored c = some (.ok pccRule) ∧
          qos = (applyDb dbPccRule pccRule).qos) ∧
        d.pccRule = { stored with
          flow := if d.flowPresence then g else stored.flow
          flow_le := hle
          qos := qos }) := by
  rw [bindComponent, if_neg hnumber] at h
  split at h
  · cases h
  · split at h
    · cases h
    · rename_i dbPccRule hdb
      obtain ⟨r, hr, h⟩ := Option.bind_eq_some_iff.mp h
      split at h
      · cases h
      · rename_i rules j flowPresence
        have hdbQci : (dbPccRule.qos.qci == pdnQci1) = true := by
          simpa using List.find?_some hdb
        obtain ⟨g, pccRule, hg, hname, hpresence, hrule⟩ := bindRule_ok hr
        obtain ⟨d, hinstall, hset, rfl, pccRule', qos, hget, hd, hqci, hupdate⟩ := defineRule_ok h
        refine ⟨dbPccRule, g, d, hdb, hg, hinstall, ?_⟩
        rcases hrule with ⟨hnone, rfl, rfl, hqos, hflow⟩ | ⟨stored, hle, hstored, hj, rfl, rfl⟩
        · -- the new rule is the last one
          rw [List.getElem?_concat_length, Option.some.injEq] at hget
          cases hget
          have hqciRule : qciRule st'.pccRule = some d.pccRule := by
            have hnew : (d.pccRule.qos.qci == pdnQci1) = true := by rw [hd, hqci, hqos, hdbQci]
            rw [hset, List.set_append_right _ _ le_rfl, Nat.sub_self, qciRule, List.find?_append]
            rw [qciRule] at hnone
            simp [hnone, hnew]
          refine ⟨hqciRule, by rw [hd, hname], hpresence, Or.inl ⟨hnone, by rw [hd, hflow], ?_⟩⟩
          rw [hset, List.length_set, List.length_append, List.length_singleton]
        · have hqciStored : (stored.qos.qci == pdnQci1) = true := by
            simpa using List.find?_some hstored
          have hgetj : st.pccRule[j]? = some stored :=
            (find_set_findIdx hj hqciStored).1.symm.trans hstored
          obtain ⟨hlt, -⟩ := List.getElem?_eq_some_iff.mp hgetj
          rw [List.getElem?_set_self hlt, Option.some.injEq] at hget
          cases hget
          have hnew : (d.pccRule.qos.qci == pdnQci1) = true := by
            rw [hd, hqci]
            exact hqciStored
          rw [List.set_set] at hset
          obtain ⟨updated, hupdated, hqos⟩ := hupdate stored.flow stored.flow_le
          refine ⟨hset ▸ (find_set_findIdx hj hnew).2.1, by rw [hd]; exact hname, hpresence,
            Or.inr ⟨j, stored, qos, hle, hstored, hj, hset, ⟨updated, ?_, hqos⟩, hd⟩⟩
          exact hupdated

/-- The rules are left as they are by a component that is refused. -/
theorem bindComponent_error (h : bindComponent share db st c = some (.error (st', code))) :
    st' = st ∧ Refused db c ∧ code ≠ erDiameterSuccess := by
  rw [bindComponent] at h
  split at h
  · cases h
  · rename_i hnumber
    split at h
    · rename_i htype
      cases h
      exact ⟨rfl, ⟨hnumber, Or.inl htype⟩, by decide⟩
    · split at h
      · rename_i hdb
        cases h
        exact ⟨rfl, ⟨hnumber, Or.inr (Or.inl hdb)⟩, by decide⟩
      · rename_i dbPccRule hdb
        obtain ⟨r, hr, h⟩ := Option.bind_eq_some_iff.mp h
        split at h
        · rename_i rules code'
          cases h
          obtain ⟨rfl, hnone, rfl⟩ := bindRule_error hr
          exact ⟨rfl, ⟨hnumber, Or.inr (Or.inr hnone)⟩, by decide⟩
        · rename_i rules j flowPresence
          obtain ⟨g, pccRule, hg, -⟩ := bindRule_ok hr
          obtain ⟨pccRule', hpccRule', h⟩ := Option.bind_eq_some_iff.mp h
          obtain ⟨r, hr, h⟩ := Option.bind_eq_some_iff.mp h
          rcases updateQos_cases hr with ⟨_, _, _, rfl, -⟩ | ⟨hnone, -⟩
          · simp only at h
            split at h <;> cases h
          · cases hg.symm.trans hnone

end

end Pcrf

end NextEpc

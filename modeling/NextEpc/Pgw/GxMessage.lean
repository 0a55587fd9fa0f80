import NextEpc.Pgw.Handlers
import NextEpc.Rx.MediaComponent

/-!
# Charging rules in the messages of the PCRF

`pgw_gx_cca_cb` and `pgw_gx_rar_cb` read each rule into the next entry of an array and each flow of
a rule into the next entry of another, whatever is there. Here is exactly which messages are read
to their end, on Gx as on Rx.
-/

namespace NextEpc

/-- `OGS_MAX_NUM_OF_PCC_RULE` -/
def maxNumOfPccRule : Nat := 8

/-- `ER_DIAMETER_SUCCESS` -/
def erDiameterSuccess : UInt32 := 2001

/-- `ogs_diam_gx_message_t` -/
structure GxMessage (maxNumOfFlow : Nat) where
  resultCode : UInt32
  ccRequestType : UInt32
  ambr : Bitrate
  qci : UInt8
  arp : Arp
  pccRule : List (PccRule maxNumOfFlow)
  pccRule_le : pccRule.length ≤ maxNumOfPccRule
  deriving DecidableEq

/-- The record that `memset` leaves. -/
def GxMessage.cleared (maxNumOfFlow : Nat) : GxMessage maxNumOfFlow :=
  ⟨0, 0, ⟨0, 0⟩, 0, ⟨0, 0, 0⟩, [], Nat.zero_le _⟩

namespace Gx

/-! ## The dictionary -/

/-- The entries of the base protocol. -/
def dictBase (code : Nat) : AvpModel := ⟨code, 0⟩

def originHost : AvpModel := dictBase 264
def resultCode : AvpModel := dictBase 268
def originRealm : AvpModel := dictBase 296
def experimentalResult : AvpModel := dictBase 297
def experimentalResultCode : AvpModel := dictBase 298
def ccRequestType : AvpModel := dictBase 416
def chargingRuleInstall : AvpModel := dict3gpp 1001
def chargingRuleRemove : AvpModel := dict3gpp 1002
def apnAggregateMaxBitrateDl : AvpModel := dict3gpp 1040
def apnAggregateMaxBitrateUl : AvpModel := dict3gpp 1041
def defaultEpsBearerQos : AvpModel := dict3gpp 1049

/-- The types that the dictionary gives to the codes that are looked at. -/
def dict (code : Nat) : Option Avp.Kind :=
  if code ∈ [chargingRuleName.code, flowDescription.code] then some .octetString
  else if code ∈ [chargingRuleInstall.code, chargingRuleRemove.code, chargingRuleDefinition.code,
    flowInformation.code, qosInformation.code, allocationRetentionPriority.code,
    defaultEpsBearerQos.code, experimentalResult.code] then some .grouped
  else if code ∈ [resultCode.code, experimentalResultCode.code, ccRequestType.code,
    flowDirection.code, flowStatus.code, qosClassIdentifier.code, priorityLevel.code,
    preEmptionCapability.code, preEmptionVulnerability.code, maxRequestedBandwidthUl.code,
    maxRequestedBandwidthDl.code, guaranteedBitrateUl.code, guaranteedBitrateDl.code,
    precedence.code, apnAggregateMaxBitrateUl.code, apnAggregateMaxBitrateDl.code] then some .word
  else none

/-! ## The decoders -/

variable {maxNumOfFlow : Nat}

/-- `fd_msg_search_avp` -/
def searchMsg (avps : List Avp) (what : AvpModel) : Option Avp :=
  avps.find? fun avp => avp.model == what

/-- A Charging-Rule-Definition is read into the next entry. The errors are those of this rule. -/
def decodeDefinition (avpch1 : Avp) (msg : GxMessage maxNumOfFlow) :
    Option (GxMessage maxNumOfFlow × Nat) :=
  if h : msg.pccRule.length < maxNumOfPccRule then do
    let (rule, error) ← decodePccRuleDefinition (.cleared maxNumOfFlow) avpch1
    some ({ msg with
      pccRule := msg.pccRule ++ [{ rule with type := pccRuleTypeInstall }]
      pccRule_le := by simpa using h }, error)
  else none

/-- A Charging-Rule-Name to be removed is read into the next entry. -/
def decodeRemoval (data : Bytes) (msg : GxMessage maxNumOfFlow) :
    Option (GxMessage maxNumOfFlow) :=
  if h : msg.pccRule.length < maxNumOfPccRule then
    some { msg with
      pccRule := msg.pccRule ++ [{ PccRule.cleared maxNumOfFlow with
        name := some (CString.copy data), type := pccRuleTypeRemove }]
      pccRule_le := by simpa using h }
  else none

/-! ### Credit-Control-Answers -/

/-- The result, and the number of errors. -/
def ccaResult (avps : List Avp) : Option (UInt32 × Nat) :=
  match searchMsg avps resultCode with
  | some avp => avp.u32.map fun v => (v, 0)
  | none =>
    match searchMsg avps experimentalResult with
    | some avp => do
      match ← avp.searchAvp experimentalResultCode with
      | some avpch1 => avpch1.u32.map fun v => (v, 0)
      | none => some (0, 0)
    | none => some (0, 1)

def decodeAmbr (avp : Avp) (ambr : Bitrate) : Option Bitrate := do
  let st ← avp.takeWord apnAggregateMaxBitrateUl 0
    (fun v ambr => { ambr with uplink := v.toUInt64 }) (ambr, 0)
  let st ← avp.takeWord apnAggregateMaxBitrateDl 0
    (fun v ambr => { ambr with downlink := v.toUInt64 }) st
  some st.1

/-- What is missing is not an error here. -/
def decodeDefaultQos (avp : Avp) (st : UInt8 × Arp) : Option (UInt8 × Arp) := do
  let (qos, _) ← avp.takeWord qosClassIdentifier 0 (fun v qos => (v.toUInt8, qos.2)) (st, 0)
  match ← avp.searchAvp allocationRetentionPriority with
  | some avpch1 => do
    let (arp, _) ← decodeArp avpch1 (qos.2, 0)
    some (qos.1, arp)
  | none => some qos

def decodeCcaRule (st : GxMessage maxNumOfFlow × Nat) (avpch1 : Avp) :
    Option (GxMessage maxNumOfFlow × Nat) :=
  if avpch1.model.code = chargingRuleDefinition.code then decodeDefinition avpch1 st.1 else some st

def decodeCcaMember (st : GxMessage maxNumOfFlow × Nat) (avp : Avp) :
    Option (GxMessage maxNumOfFlow × Nat) :=
  if avp.model.code = chargingRuleInstall.code then avp.children.foldlM decodeCcaRule st
  else some st

/-! What is looked for in the message itself. -/

def ccaRequestType (avps : List Avp) (st : UInt32 × Nat) : Option (UInt32 × Nat) :=
  match searchMsg avps ccRequestType with
  | some avp => avp.u32.map fun v => (v, st.2)
  | none => some (st.1, st.2 + 1)

def ccaAmbr (avps : List Avp) (ambr : Bitrate) : Option Bitrate :=
  match searchMsg avps qosInformation with
  | some avp => decodeAmbr avp ambr
  | none => some ambr

def ccaDefaultQos (avps : List Avp) (st : UInt8 × Arp) : Option (UInt8 × Arp) :=
  match searchMsg avps defaultEpsBearerQos with
  | some avp => decodeDefaultQos avp st
  | none => some st

/-- `pgw_gx_cca_cb`: the message, and the number of errors -/
def decodeCca (maxNumOfFlow : Nat) (avps : List Avp) : Option (GxMessage maxNumOfFlow × Nat) := do
  let (result, error) ← ccaResult avps
  let error := error + (if (searchMsg avps originHost).isNone then 1 else 0) +
    (if (searchMsg avps originRealm).isNone then 1 else 0)
  let msg := { GxMessage.cleared maxNumOfFlow with resultCode := result }
  if result ≠ erDiameterSuccess then some (msg, error)
  else do
    let (ccRequestType, error) ← ccaRequestType avps (msg.ccRequestType, error)
    let ambr ← ccaAmbr avps msg.ambr
    let qos ← ccaDefaultQos avps (msg.qci, msg.arp)
    avps.foldlM decodeCcaMember ({ msg with
      ccRequestType := ccRequestType, ambr := ambr, qci := qos.1, arp := qos.2 }, error)

/-! ### Re-Auth-Requests -/

def decodeRarRule (msg : GxMessage maxNumOfFlow) (avpch1 : Avp) :
    Option (GxMessage maxNumOfFlow) :=
  if avpch1.model.code = chargingRuleDefinition.code then
    (decodeDefinition avpch1 msg).map Prod.fst
  else some msg

def decodeRarName (msg : GxMessage maxNumOfFlow) (avpch1 : Avp) :
    Option (GxMessage maxNumOfFlow) :=
  if avpch1.model.code = chargingRuleName.code then
    avpch1.os.bind fun data => decodeRemoval data msg
  else some msg

def decodeRarMember (msg : GxMessage maxNumOfFlow) (avp : Avp) :
    Option (GxMessage maxNumOfFlow) :=
  if avp.model.code = chargingRuleInstall.code then avp.children.foldlM decodeRarRule msg
  else if avp.model.code = chargingRuleRemove.code then avp.children.foldlM decodeRarName msg
  else some msg

/-- The loop of `pgw_gx_rar_cb`. -/
def decodeRar (maxNumOfFlow : Nat) (avps : List Avp) : Option (GxMessage maxNumOfFlow) :=
  avps.foldlM decodeRarMember (.cleared maxNumOfFlow)

/-! ## Rules that are read -/

/-- No group in which a member is looked for is empty. -/
def QosReadable (avp : Avp) : Prop :=
  avp.children ≠ [] ∧ ∀ arp, avp.children.find? (fun avp => avp.model ==
    allocationRetentionPriority) = some arp → arp.children ≠ []

/-- The flows of a rule fit into its array. -/
def RuleReadable (maxNumOfFlow : Nat) (avp : Avp) : Prop :=
  Avp.count flowInformation.code avp.children ≤ maxNumOfFlow ∧
    ∀ avp' ∈ avp.children, (avp'.model.code = flowInformation.code → avp'.children ≠ []) ∧
      (avp'.model.code = qosInformation.code → QosReadable avp')

section
variable {avp : Avp} {avps : List Avp} {rule rule' : PccRule maxNumOfFlow}

/-- A computation gets to its end if both of its parts do, whatever the first one gives. -/
theorem exists_bind_iff {α β : Type} {x : Option α} {f : α → Option β} {p q : Prop}
    (hx : (∃ a, x = some a) ↔ p) (hf : ∀ a, (∃ b, f a = some b) ↔ q) :
    (∃ b, (x >>= f) = some b) ↔ p ∧ q := by
  cases x with
  | none =>
    have hp : ¬p := fun hp => by
      obtain ⟨_, h⟩ := hx.mpr hp
      cases h
    simp [hp]
  | some a =>
    have hp : p := hx.mp ⟨a, rfl⟩
    simpa [hp] using hf a

theorem exists_map_iff {α β : Type} {x : Option α} {f : α → β} :
    (∃ b, x.map f = some b) ↔ ∃ a, x = some a := by
  cases x <;> simp

theorem decodeArp_iff (h : avp.WellTyped dict) (st : Arp × Nat) :
    (∃ st', decodeArp avp st = some st') ↔ avp.children ≠ [] := by
  have hfirst := exists_bind_iff (h.takeWord priorityLevel rfl 1
    (fun v arp => { arp with priorityLevel := v.toUInt8 }) st)
    fun st' => exists_bind_iff (h.takeWord preEmptionCapability rfl 1
      (fun v arp => { arp with preEmptionCapability := v.toUInt8 }) st')
      fun st' => h.takeWord preEmptionVulnerability rfl 1
        (fun v arp => { arp with preEmptionVulnerability := v.toUInt8 }) st'
  refine hfirst.trans ?_
  simp

/-- The four bit rates of a rule. -/
theorem decodeRates_iff (h : avp.WellTyped dict) (f₁ f₂ f₃ f₄ : UInt32 → Qos → Qos)
    (st : Qos × Nat) : (∃ st', (do
        let st ← avp.takeWord maxRequestedBandwidthUl 0 f₁ st
        let st ← avp.takeWord maxRequestedBandwidthDl 0 f₂ st
        let st ← avp.takeWord guaranteedBitrateUl 0 f₃ st
        avp.takeWord guaranteedBitrateDl 0 f₄ st) = some st') ↔ avp.children ≠ [] := by
  have hfirst := exists_bind_iff (h.takeWord maxRequestedBandwidthUl rfl 0 f₁ st)
    fun st => exists_bind_iff (h.takeWord maxRequestedBandwidthDl rfl 0 f₂ st)
      fun st => exists_bind_iff (h.takeWord guaranteedBitrateUl rfl 0 f₃ st)
        fun st => h.takeWord guaranteedBitrateDl rfl 0 f₄ st
  refine hfirst.trans ?_
  simp

theorem decodeQos_iff (h : avp.WellTyped dict) (st : Qos × Nat) :
    (∃ st', decodeQos avp st = some st') ↔ QosReadable avp := by
  rw [decodeQos]
  refine (exists_bind_iff (q := QosReadable avp)
    (h.takeWord qosClassIdentifier rfl 1 _ st) fun st => ?_).trans
      ⟨fun hread => hread.2, fun hread => ⟨hread.1, hread⟩⟩
  by_cases hne : avp.children = []
  · simp [Avp.searchAvp, hne, QosReadable]
  · rw [Avp.searchAvp_eq_some.mpr ⟨hne, rfl⟩]
    cases hfind : avp.children.find? fun avp => avp.model == allocationRetentionPriority with
    | none =>
      refine (decodeRates_iff h _ _ _ _ _).trans ?_
      simp [QosReadable, hfind]
    | some arp =>
      obtain ⟨htyped, -⟩ := Avp.WellTyped.find (fun _ => h.children) hfind
      refine (exists_bind_iff (decodeArp_iff htyped _) fun arp' =>
        decodeRates_iff h _ _ _ _ _).trans ?_
      simp [QosReadable, hfind, hne]

/-! ## Members of a rule -/

/-- A rule with one flow more. -/
def pushFlow (rule : PccRule maxNumOfFlow) (flow : Flow) : Option (PccRule maxNumOfFlow) :=
  if h : rule.flow.length < maxNumOfFlow then
    some { rule with
      flow := rule.flow ++ [flow]
      flow_le := by simpa using h }
  else none

/-- What is looked for in a well typed group is not there or can be read. -/
theorem find_word (h : avp.WellTyped dict) (what : AvpModel) (hdict : dict what.code = some .word) :
    avp.children.find? (fun avp => avp.model == what) = none ∨ ∃ child v,
      avp.children.find? (fun avp => avp.model == what) = some child ∧ child.u32 = some v := by
  cases hfind : avp.children.find? fun avp => avp.model == what with
  | none => exact Or.inl rfl
  | some child =>
    obtain ⟨htyped, hmodel⟩ := Avp.WellTyped.find (fun _ => h.children) hfind
    obtain ⟨v, hv⟩ := htyped.u32 (hmodel ▸ hdict)
    exact Or.inr ⟨child, v, rfl, hv⟩

theorem find_octetString (h : avp.WellTyped dict) (what : AvpModel)
    (hdict : dict what.code = some .octetString) :
    avp.children.find? (fun avp => avp.model == what) = none ∨ ∃ child data,
      avp.children.find? (fun avp => avp.model == what) = some child ∧ child.os = some data := by
  cases hfind : avp.children.find? fun avp => avp.model == what with
  | none => exact Or.inl rfl
  | some child =>
    obtain ⟨htyped, hmodel⟩ := Avp.WellTyped.find (fun _ => h.children) hfind
    obtain ⟨data, hdata⟩ := htyped.os (hmodel ▸ hdict)
    exact Or.inr ⟨child, data, rfl, hdata⟩

theorem decodeFlow_of_ne (h : avp.WellTyped dict) (hne : avp.children ≠ []) :
    ∃ flow, ∀ rule : PccRule maxNumOfFlow, decodeFlow avp rule = pushFlow rule flow := by
  have hsearch : ∀ what, avp.searchAvp what =
      some (avp.children.find? fun avp => avp.model == what) :=
    fun what => Avp.searchAvp_eq_some.mpr ⟨hne, rfl⟩
  rcases find_word h flowDirection rfl with hdirection | ⟨c, v, hdirection, hv⟩
  · rcases find_octetString h flowDescription rfl with hdescription | ⟨d, data, hdescription, hdata⟩
    · refine ⟨⟨0, none⟩, fun rule => ?_⟩
      simp only [decodeFlow, hsearch, hdirection, hdescription]
      rfl
    · refine ⟨⟨0, some (CString.copy data)⟩, fun rule => ?_⟩
      simp only [decodeFlow, hsearch, hdirection, hdescription, Option.bind_eq_bind,
        Option.bind_some, hdata]
      rfl
  · rcases find_octetString h flowDescription rfl with hdescription | ⟨d, data, hdescription, hdata⟩
    · refine ⟨⟨v.toUInt8, none⟩, fun rule => ?_⟩
      simp only [decodeFlow, hsearch, hdirection, hdescription, Option.bind_eq_bind,
        Option.bind_some, hv]
      rfl
    · refine ⟨⟨v.toUInt8, some (CString.copy data)⟩, fun rule => ?_⟩
      simp only [decodeFlow, hsearch, hdirection, hdescription, Option.bind_eq_bind,
        Option.bind_some, hv, hdata]
      rfl

theorem decodeFlow_empty (hne : avp.children = []) : decodeFlow avp rule = none := by
  rw [decodeFlow, Avp.searchAvp, hne]
  rfl

theorem pushFlow_iff {flow : Flow} :
    (∃ rule', pushFlow rule flow = some rule') ↔ rule.flow.length < maxNumOfFlow := by
  rw [pushFlow]
  split <;> simp [*]

theorem pushFlow_count {flow : Flow} (h : pushFlow rule flow = some rule') :
    rule'.flow.length = rule.flow.length + 1 := by
  rw [pushFlow, Option.dite_none_right_eq_some] at h
  obtain ⟨_, h⟩ := h
  cases h
  simp

/-- How many entries of the array of flows a member takes. -/
def flowWeight (avp : Avp) : Nat := if avp.model.code = flowInformation.code then 1 else 0

section
variable {st st' : PccRule maxNumOfFlow × Nat}

theorem decodeMember_flow (hcode : avp.model.code = flowInformation.code) :
    decodeMember st avp = (decodeFlow avp st.1).map fun rule => (rule, st.2) := by
  have hname : flowInformation.code ≠ chargingRuleName.code := by decide
  simp only [decodeMember, hcode, hname, ↓reduceIte]
  cases decodeFlow avp st.1 <;> rfl

theorem decodeMember_qos (hcode : avp.model.code = qosInformation.code) :
    decodeMember st avp =
      (decodeQos avp (st.1.qos, st.2)).map fun q => ({ st.1 with qos := q.1 }, q.2) := by
  have hname : qosInformation.code ≠ chargingRuleName.code := by decide
  have hflow : qosInformation.code ≠ flowInformation.code := by decide
  have hstatus : qosInformation.code ≠ flowStatus.code := by decide
  simp only [decodeMember, hcode, hname, hflow, hstatus, ↓reduceIte]
  cases decodeQos avp (st.1.qos, st.2) <;> rfl

/-- Any other member is read and leaves the flows alone. -/
theorem decodeMember_of_ne (h : avp.WellTyped dict)
    (hflow : avp.model.code ≠ flowInformation.code) (hqos : avp.model.code ≠ qosInformation.code) :
    ∃ st', decodeMember st avp = some st' ∧ st'.1.flow = st.1.flow := by
  rw [decodeMember]
  by_cases hname : avp.model.code = chargingRuleName.code
  · obtain ⟨data, hdata⟩ := h.os (by rw [hname]; rfl)
    refine ⟨({ st.1 with name := some (CString.copy data) }, st.2), ?_, rfl⟩
    rw [if_pos hname, hdata]
    rfl
  · by_cases hstatus : avp.model.code = flowStatus.code
    · obtain ⟨v, hv⟩ := h.u32 (by rw [hstatus]; rfl)
      refine ⟨({ st.1 with flowStatus := v.toInt32 }, st.2), ?_, rfl⟩
      rw [if_neg hname, if_neg hflow, if_pos hstatus, hv]
      rfl
    · by_cases hprecedence : avp.model.code = precedence.code
      · obtain ⟨v, hv⟩ := h.u32 (by rw [hprecedence]; rfl)
        refine ⟨({ st.1 with precedence := v }, st.2), ?_, rfl⟩
        rw [if_neg hname, if_neg hflow, if_neg hstatus, if_neg hqos, if_pos hprecedence, hv]
        rfl
      · refine ⟨st, ?_, rfl⟩
        rw [if_neg hname, if_neg hflow, if_neg hstatus, if_neg hqos, if_neg hprecedence]

theorem decodeMember_iff (h : avp.WellTyped dict) : (∃ st', decodeMember st avp = some st') ↔
    st.1.flow.length + flowWeight avp ≤ maxNumOfFlow ∧
      (avp.model.code = flowInformation.code → avp.children ≠ []) ∧
      (avp.model.code = qosInformation.code → QosReadable avp) := by
  have hle := st.1.flow_le
  by_cases hflow : avp.model.code = flowInformation.code
  · have hqos : avp.model.code ≠ qosInformation.code := by
      rw [hflow]
      decide
    rw [decodeMember_flow hflow, flowWeight, if_pos hflow]
    by_cases hne : avp.children = []
    · simp [decodeFlow_empty hne, hflow, hne]
    · obtain ⟨flow, hread⟩ := @decodeFlow_of_ne maxNumOfFlow _ h hne
      rw [hread, Nat.succ_le_iff, ← @pushFlow_iff _ _ flow]
      simp [hne, hqos]
  · rw [flowWeight, if_neg hflow]
    by_cases hqos : avp.model.code = qosInformation.code
    · rw [decodeMember_qos hqos]
      refine exists_map_iff.trans ((decodeQos_iff h _).trans ?_)
      simp [hqos, hle, show qosInformation.code ≠ flowInformation.code by decide]
    · obtain ⟨st', hread, -⟩ := @decodeMember_of_ne _ _ st h hflow hqos
      exact iff_of_true ⟨st', hread⟩ ⟨hle, fun h => absurd h hflow, fun h => absurd h hqos⟩

theorem decodeMember_count (h : avp.WellTyped dict) (hdecode : decodeMember st avp = some st') :
    st'.1.flow.length = st.1.flow.length + flowWeight avp := by
  by_cases hflow : avp.model.code = flowInformation.code
  · rw [decodeMember_flow hflow, Option.map_eq_some_iff] at hdecode
    obtain ⟨rule, hread, rfl⟩ := hdecode
    by_cases hne : avp.children = []
    · rw [decodeFlow_empty hne] at hread
      cases hread
    · obtain ⟨flow, hpush⟩ := @decodeFlow_of_ne maxNumOfFlow _ h hne
      rw [hpush] at hread
      rw [pushFlow_count hread, flowWeight, if_pos hflow]
  · rw [flowWeight, if_neg hflow, Nat.add_zero]
    by_cases hqos : avp.model.code = qosInformation.code
    · rw [decodeMember_qos hqos, Option.map_eq_some_iff] at hdecode
      obtain ⟨q, -, rfl⟩ := hdecode
      rfl
    · obtain ⟨st'', hread, hsame⟩ := @decodeMember_of_ne _ _ st h hflow hqos
      rw [hread] at hdecode
      cases hdecode
      rw [hsame]

end

theorem decodePccRuleDefinition_iff (h : avp.WellTyped dict) :
    (∃ r, decodePccRuleDefinition (.cleared maxNumOfFlow) avp = some r) ↔
      RuleReadable maxNumOfFlow avp := by
  have hloop := @Loop.foldlM_bounded _ _ avp.children (PccRule.cleared maxNumOfFlow, 0)
    decodeMember (fun st => st.1.flow.length) flowWeight
    (fun avp => (avp.model.code = flowInformation.code → avp.children ≠ []) ∧
      (avp.model.code = qosInformation.code → QosReadable avp)) maxNumOfFlow
    (fun st => st.1.flow_le)
    (fun st child hchild => decodeMember_iff (h.children hchild))
    (fun st child hchild t => decodeMember_count (h.children hchild))
  have hsum : (avp.children.map flowWeight).sum = Avp.count flowInformation.code avp.children :=
    (Avp.count_eq_sum _ _).symm
  rw [decodePccRuleDefinition, hloop, RuleReadable, hsum]
  simp [PccRule.cleared]

/-! ## Rules of a message -/

section
variable {msg msg' : GxMessage maxNumOfFlow}

theorem decodeDefinition_iff (h : avp.WellTyped dict) :
    (∃ r, decodeDefinition avp msg = some r) ↔
      msg.pccRule.length + 1 ≤ maxNumOfPccRule ∧ RuleReadable maxNumOfFlow avp := by
  rw [decodeDefinition, Nat.succ_le_iff, ← decodePccRuleDefinition_iff h]
  split
  · rename_i hlt
    simp only [hlt, true_and]
    constructor
    · rintro ⟨_, hr⟩
      obtain ⟨r, hread, -⟩ := Option.bind_eq_some_iff.mp hr
      exact ⟨r, hread⟩
    · rintro ⟨r, hread⟩
      rw [hread]
      exact ⟨_, rfl⟩
  · rename_i hlt
    simp [hlt]

theorem decodeDefinition_count {error : Nat} (h : decodeDefinition avp msg = some (msg', error)) :
    msg'.pccRule.length = msg.pccRule.length + 1 := by
  rw [decodeDefinition, Option.dite_none_right_eq_some] at h
  obtain ⟨_, h⟩ := h
  obtain ⟨r, -, h⟩ := Option.bind_eq_some_iff.mp h
  cases h
  simp

theorem decodeRemoval_iff {data : Bytes} :
    (∃ msg', decodeRemoval data msg = some msg') ↔ msg.pccRule.length + 1 ≤ maxNumOfPccRule := by
  rw [decodeRemoval, Nat.succ_le_iff]
  split <;> simp [*]

theorem decodeRemoval_count {data : Bytes} (h : decodeRemoval data msg = some msg') :
    msg'.pccRule.length = msg.pccRule.length + 1 := by
  rw [decodeRemoval, Option.dite_none_right_eq_some] at h
  obtain ⟨_, h⟩ := h
  cases h
  simp

end

/-- The rules of a Charging-Rule-Install can be read. -/
def InstallReadable (maxNumOfFlow : Nat) (avp : Avp) : Prop :=
  ∀ avp' ∈ avp.children, avp'.model.code = chargingRuleDefinition.code →
    RuleReadable maxNumOfFlow avp'

def installWeight (avp : Avp) : Nat := Avp.count chargingRuleDefinition.code avp.children

def removeWeight (avp : Avp) : Nat := Avp.count chargingRuleName.code avp.children

/-! ### Credit-Control-Answers -/

section
variable {st st' : GxMessage maxNumOfFlow × Nat}

theorem decodeCcaRule_iff (h : avp.WellTyped dict) : (∃ st', decodeCcaRule st avp = some st') ↔
    st.1.pccRule.length + (if avp.model.code = chargingRuleDefinition.code then 1 else 0) ≤
        maxNumOfPccRule ∧
      (avp.model.code = chargingRuleDefinition.code → RuleReadable maxNumOfFlow avp) := by
  rw [decodeCcaRule]
  split
  · rename_i hcode
    rw [decodeDefinition_iff h]
    simp [hcode]
  · rename_i hcode
    exact iff_of_true ⟨st, rfl⟩ ⟨st.1.pccRule_le, fun h => absurd h hcode⟩

theorem decodeCcaRule_count (h : decodeCcaRule st avp = some st') : st'.1.pccRule.length =
    st.1.pccRule.length + if avp.model.code = chargingRuleDefinition.code then 1 else 0 := by
  rw [decodeCcaRule] at h
  split at h
  · rename_i hcode
    rw [if_pos hcode]
    exact decodeDefinition_count h
  · rename_i hcode
    cases h
    rw [if_neg hcode, Nat.add_zero]

/-- How many entries of the array of rules a member of a Credit-Control-Answer takes. -/
def ccaWeight (avp : Avp) : Nat :=
  if avp.model.code = chargingRuleInstall.code then installWeight avp else 0

theorem decodeCcaMember_iff (h : avp.WellTyped dict) :
    (∃ st', decodeCcaMember st avp = some st') ↔
      st.1.pccRule.length + ccaWeight avp ≤ maxNumOfPccRule ∧
        (avp.model.code = chargingRuleInstall.code → InstallReadable maxNumOfFlow avp) := by
  rw [decodeCcaMember, ccaWeight]
  split
  · rename_i hcode
    have hloop := @Loop.foldlM_bounded _ _ avp.children st decodeCcaRule
      (fun st => st.1.pccRule.length)
      (fun avp => if avp.model.code = chargingRuleDefinition.code then 1 else 0)
      (fun avp => avp.model.code = chargingRuleDefinition.code → RuleReadable maxNumOfFlow avp)
      maxNumOfPccRule (fun st => st.1.pccRule_le)
      (fun st child hchild => decodeCcaRule_iff (h.children hchild))
      (fun st child _ t => decodeCcaRule_count)
    rw [hloop, installWeight, Avp.count_eq_sum]
    simp [hcode, InstallReadable]
  · rename_i hcode
    exact iff_of_true ⟨st, rfl⟩ ⟨st.1.pccRule_le, fun h => absurd h hcode⟩

theorem decodeCcaMember_count (h : decodeCcaMember st avp = some st') :
    st'.1.pccRule.length = st.1.pccRule.length + ccaWeight avp := by
  rw [decodeCcaMember] at h
  rw [ccaWeight]
  split at h
  · rename_i hcode
    have hcount := @Loop.foldlM_count _ _ avp.children st st' decodeCcaRule
      (fun st => st.1.pccRule.length)
      (fun avp => if avp.model.code = chargingRuleDefinition.code then 1 else 0)
      (fun st child _ t => decodeCcaRule_count) h
    rw [hcount, if_pos hcode, installWeight, Avp.count_eq_sum]
  · rename_i hcode
    cases h
    rw [if_neg hcode, Nat.add_zero]

end

/-- The rules of an answer fit into the array. -/
def CcaFits (maxNumOfFlow : Nat) (avps : List Avp) : Prop :=
  (avps.map ccaWeight).sum ≤ maxNumOfPccRule ∧
    ∀ avp ∈ avps, avp.model.code = chargingRuleInstall.code → InstallReadable maxNumOfFlow avp

/-- The answer says `ER_DIAMETER_SUCCESS`. -/
def Succeeds (avps : List Avp) : Prop := ∃ error, ccaResult avps = some (erDiameterSuccess, error)

/-- The result can be looked for. -/
def ResultReadable (avps : List Avp) : Prop :=
  searchMsg avps resultCode = none → ∀ avp, searchMsg avps experimentalResult = some avp →
    avp.children ≠ []

/-- The QoS of the answer can be looked for. -/
def PdnReadable (avps : List Avp) : Prop :=
  (∀ avp, searchMsg avps qosInformation = some avp → avp.children ≠ []) ∧
    ∀ avp, searchMsg avps defaultEpsBearerQos = some avp → QosReadable avp

def CcaReadable (maxNumOfFlow : Nat) (avps : List Avp) : Prop :=
  ResultReadable avps ∧ (Succeeds avps → PdnReadable avps ∧ CcaFits maxNumOfFlow avps)

section
variable (h : ∀ avp ∈ avps, avp.WellTyped dict)
include h

theorem searchMsg_typed {what : AvpModel} (hfind : searchMsg avps what = some avp) :
    avp.WellTyped dict ∧ avp.model = what :=
  Avp.WellTyped.find h hfind

theorem ccaResult_iff : (∃ r, ccaResult avps = some r) ↔ ResultReadable avps := by
  rw [ccaResult, ResultReadable]
  cases hresult : searchMsg avps resultCode with
  | some avp =>
    obtain ⟨htyped, hmodel⟩ := searchMsg_typed h hresult
    obtain ⟨v, hv⟩ := htyped.u32 (by rw [hmodel]; rfl)
    simp [hv]
  | none =>
    cases hexperimental : searchMsg avps experimentalResult with
    | none => simp
    | some avp =>
      obtain ⟨htyped, -⟩ := searchMsg_typed h hexperimental
      by_cases hne : avp.children = []
      · simp [Avp.searchAvp, hne]
      · simp only [Avp.searchAvp_eq_some.mpr ⟨hne, rfl⟩, Option.bind_eq_bind, Option.bind_some]
        rcases find_word htyped experimentalResultCode rfl with
          hcode | ⟨child, v, hcode, hv⟩
        · simp [hcode, hne]
        · simp [hcode, hv, hne]

omit h in
theorem decodeAmbr_iff {ambr : Bitrate} (havp : avp.WellTyped dict) :
    (∃ ambr', decodeAmbr avp ambr = some ambr') ↔ avp.children ≠ [] := by
  have hfirst := exists_bind_iff (havp.takeWord apnAggregateMaxBitrateUl rfl 0
    (fun v ambr => { ambr with uplink := v.toUInt64 }) (ambr, 0))
    fun st => exists_bind_iff (q := True) (havp.takeWord apnAggregateMaxBitrateDl rfl 0
      (fun v ambr => { ambr with downlink := v.toUInt64 }) st)
      fun st => iff_true_intro ⟨st.1, rfl⟩
  refine hfirst.trans ?_
  simp

omit h in
theorem decodeDefaultQos_iff {st : UInt8 × Arp} (havp : avp.WellTyped dict) :
    (∃ st', decodeDefaultQos avp st = some st') ↔ QosReadable avp := by
  rw [decodeDefaultQos]
  refine (exists_bind_iff (q := QosReadable avp)
    (havp.takeWord qosClassIdentifier rfl 0 _ (st, 0)) fun st => ?_).trans
      ⟨fun hread => hread.2, fun hread => ⟨hread.1, hread⟩⟩
  by_cases hne : avp.children = []
  · simp [Avp.searchAvp, hne, QosReadable]
  · rw [Avp.searchAvp_eq_some.mpr ⟨hne, rfl⟩]
    cases hfind : avp.children.find? fun avp => avp.model == allocationRetentionPriority with
    | none => simp [QosReadable, hfind, hne]
    | some arp =>
      obtain ⟨htyped, -⟩ := Avp.WellTyped.find (fun _ => havp.children) hfind
      refine (exists_bind_iff (q := True) (decodeArp_iff htyped _) fun arp' =>
        iff_true_intro ⟨_, rfl⟩).trans ?_
      simp [QosReadable, hfind, hne]

/-- The loop over the rules. -/
theorem decodeCcaRules_iff (st : GxMessage maxNumOfFlow × Nat) (hst : st.1.pccRule = []) :
    (∃ st', avps.foldlM decodeCcaMember st = some st') ↔ CcaFits maxNumOfFlow avps := by
  have hloop := @Loop.foldlM_bounded _ _ avps st decodeCcaMember
    (fun st => st.1.pccRule.length) ccaWeight
    (fun avp => avp.model.code = chargingRuleInstall.code → InstallReadable maxNumOfFlow avp)
    maxNumOfPccRule (fun st => st.1.pccRule_le)
    (fun st avp havp => decodeCcaMember_iff (h avp havp))
    (fun st avp _ t => decodeCcaMember_count)
  rw [hloop, hst]
  simp [CcaFits]

theorem ccaRequestType_some (st : UInt32 × Nat) : ∃ st', ccaRequestType avps st = some st' := by
  rw [ccaRequestType]
  cases hfind : searchMsg avps ccRequestType with
  | none => exact ⟨_, rfl⟩
  | some avp =>
    obtain ⟨htyped, hmodel⟩ := searchMsg_typed h hfind
    obtain ⟨v, hv⟩ := htyped.u32 (by rw [hmodel]; rfl)
    exact ⟨(v, st.2), by simp [hv]⟩

theorem ccaAmbr_iff (ambr : Bitrate) : (∃ ambr', ccaAmbr avps ambr = some ambr') ↔
    ∀ avp, searchMsg avps qosInformation = some avp → avp.children ≠ [] := by
  rw [ccaAmbr]
  cases hfind : searchMsg avps qosInformation with
  | none => simp
  | some avp =>
    refine (decodeAmbr_iff (searchMsg_typed h hfind).1).trans ?_
    simp

theorem ccaDefaultQos_iff (st : UInt8 × Arp) : (∃ st', ccaDefaultQos avps st = some st') ↔
    ∀ avp, searchMsg avps defaultEpsBearerQos = some avp → QosReadable avp := by
  rw [ccaDefaultQos]
  cases hfind : searchMsg avps defaultEpsBearerQos with
  | none => simp
  | some avp =>
    refine (decodeDefaultQos_iff (searchMsg_typed h hfind).1).trans ?_
    simp

theorem decodeCca_iff : (∃ r, decodeCca maxNumOfFlow avps = some r) ↔
    CcaReadable maxNumOfFlow avps := by
  rw [CcaReadable, ← ccaResult_iff h, decodeCca]
  cases hresult : ccaResult avps with
  | none => simp
  | some r =>
    obtain ⟨result, error⟩ := r
    have hsucceeds : Succeeds avps ↔ result = erDiameterSuccess := by
      simp [Succeeds, hresult]
    rw [hsucceeds]
    by_cases hok : result = erDiameterSuccess
    · have hrest := exists_bind_iff (iff_true_intro (ccaRequestType_some h (0, error +
          (if (searchMsg avps originHost).isNone then 1 else 0) +
          (if (searchMsg avps originRealm).isNone then 1 else 0))))
        fun r => exists_bind_iff (ccaAmbr_iff h ⟨0, 0⟩)
          fun ambr => exists_bind_iff (ccaDefaultQos_iff h (0, ⟨0, 0, 0⟩))
            fun qos => decodeCcaRules_iff h ({ GxMessage.cleared maxNumOfFlow with
              resultCode := result, ccRequestType := r.1, ambr := ambr, qci := qos.1
              arp := qos.2 }, r.2) rfl
      simp only [Option.bind_eq_bind, Option.bind_some, hok, ne_eq, not_true_eq_false, ↓reduceIte]
      subst hok
      refine hrest.trans ?_
      simp [PdnReadable, and_assoc]
    · simp [hok]

end

/-! ### Re-Auth-Requests -/

section
variable {msg msg' : GxMessage maxNumOfFlow}

theorem decodeRarRule_iff (h : avp.WellTyped dict) :
    (∃ msg', decodeRarRule msg avp = some msg') ↔
      msg.pccRule.length + (if avp.model.code = chargingRuleDefinition.code then 1 else 0) ≤
          maxNumOfPccRule ∧
        (avp.model.code = chargingRuleDefinition.code → RuleReadable maxNumOfFlow avp) := by
  rw [decodeRarRule]
  split
  · rename_i hcode
    refine exists_map_iff.trans ((decodeDefinition_iff h).trans ?_)
    simp [hcode]
  · rename_i hcode
    exact iff_of_true ⟨msg, rfl⟩ ⟨msg.pccRule_le, fun h => absurd h hcode⟩

theorem decodeRarRule_count (h : decodeRarRule msg avp = some msg') : msg'.pccRule.length =
    msg.pccRule.length + if avp.model.code = chargingRuleDefinition.code then 1 else 0 := by
  rw [decodeRarRule] at h
  split at h
  · rename_i hcode
    rw [Option.map_eq_some_iff] at h
    obtain ⟨⟨_, error⟩, h, rfl⟩ := h
    rw [if_pos hcode]
    exact decodeDefinition_count h
  · rename_i hcode
    cases h
    rw [if_neg hcode, Nat.add_zero]

theorem decodeRarName_iff (h : avp.WellTyped dict) :
    (∃ msg', decodeRarName msg avp = some msg') ↔ msg.pccRule.length +
      (if avp.model.code = chargingRuleName.code then 1 else 0) ≤ maxNumOfPccRule := by
  rw [decodeRarName]
  split
  · rename_i hcode
    obtain ⟨data, hdata⟩ := h.os (by rw [hcode]; rfl)
    rw [hdata]
    exact decodeRemoval_iff
  · exact iff_of_true ⟨msg, rfl⟩ msg.pccRule_le

theorem decodeRarName_count (h : decodeRarName msg avp = some msg') : msg'.pccRule.length =
    msg.pccRule.length + if avp.model.code = chargingRuleName.code then 1 else 0 := by
  rw [decodeRarName] at h
  split at h
  · rename_i hcode
    obtain ⟨data, -, h⟩ := Option.bind_eq_some_iff.mp h
    rw [if_pos hcode]
    exact decodeRemoval_count h
  · rename_i hcode
    cases h
    rw [if_neg hcode, Nat.add_zero]

/-- How many entries of the array of rules a member of a Re-Auth-Request takes. -/
def rarWeight (avp : Avp) : Nat :=
  if avp.model.code = chargingRuleInstall.code then installWeight avp
  else if avp.model.code = chargingRuleRemove.code then removeWeight avp else 0

theorem decodeRarMember_iff (h : avp.WellTyped dict) :
    (∃ msg', decodeRarMember msg avp = some msg') ↔
      msg.pccRule.length + rarWeight avp ≤ maxNumOfPccRule ∧
        (avp.model.code = chargingRuleInstall.code → InstallReadable maxNumOfFlow avp) := by
  rw [decodeRarMember, rarWeight]
  split
  · rename_i hcode
    have hloop := @Loop.foldlM_bounded _ _ avp.children msg decodeRarRule
      (fun msg => msg.pccRule.length)
      (fun avp => if avp.model.code = chargingRuleDefinition.code then 1 else 0)
      (fun avp => avp.model.code = chargingRuleDefinition.code → RuleReadable maxNumOfFlow avp)
      maxNumOfPccRule (fun msg => msg.pccRule_le)
      (fun msg child hchild => decodeRarRule_iff (h.children hchild))
      (fun msg child _ t => decodeRarRule_count)
    rw [hloop, installWeight, Avp.count_eq_sum]
    simp [hcode, InstallReadable]
  · rename_i hinstall
    split
    · have hloop := @Loop.foldlM_bounded _ _ avp.children msg decodeRarName
        (fun msg => msg.pccRule.length)
        (fun avp => if avp.model.code = chargingRuleName.code then 1 else 0) (fun _ => True)
        maxNumOfPccRule (fun msg => msg.pccRule_le)
        (fun msg child hchild => by rw [decodeRarName_iff (h.children hchild), and_true])
        (fun msg child _ t => decodeRarName_count)
      rw [hloop, removeWeight, Avp.count_eq_sum]
      simp [hinstall]
    · exact iff_of_true ⟨msg, rfl⟩ ⟨msg.pccRule_le, fun h => absurd h hinstall⟩

theorem decodeRarMember_count (h : decodeRarMember msg avp = some msg') :
    msg'.pccRule.length = msg.pccRule.length + rarWeight avp := by
  rw [decodeRarMember] at h
  rw [rarWeight]
  split at h
  · rename_i hcode
    have hcount := @Loop.foldlM_count _ _ avp.children msg msg' decodeRarRule
      (fun msg => msg.pccRule.length)
      (fun avp => if avp.model.code = chargingRuleDefinition.code then 1 else 0)
      (fun msg child _ t => decodeRarRule_count) h
    rw [hcount, if_pos hcode, installWeight, Avp.count_eq_sum]
  · rename_i hinstall
    rw [if_neg hinstall]
    split at h
    · rename_i hcode
      have hcount := @Loop.foldlM_count _ _ avp.children msg msg' decodeRarName
        (fun msg => msg.pccRule.length)
        (fun avp => if avp.model.code = chargingRuleName.code then 1 else 0)
        (fun msg child _ t => decodeRarName_count) h
      rw [hcount, if_pos hcode, removeWeight, Avp.count_eq_sum]
    · rename_i hcode
      cases h
      rw [if_neg hcode, Nat.add_zero]

/-- The rules of a request fit into the array. -/
def RarFits (maxNumOfFlow : Nat) (avps : List Avp) : Prop :=
  (avps.map rarWeight).sum ≤ maxNumOfPccRule ∧
    ∀ avp ∈ avps, avp.model.code = chargingRuleInstall.code → InstallReadable maxNumOfFlow avp

theorem decodeRar_iff (h : ∀ avp ∈ avps, avp.WellTyped dict) :
    (∃ msg, decodeRar maxNumOfFlow avps = some msg) ↔ RarFits maxNumOfFlow avps := by
  have hloop := @Loop.foldlM_bounded _ _ avps (GxMessage.cleared maxNumOfFlow) decodeRarMember
    (fun msg => msg.pccRule.length) rarWeight
    (fun avp => avp.model.code = chargingRuleInstall.code → InstallReadable maxNumOfFlow avp)
    maxNumOfPccRule (fun msg => msg.pccRule_le)
    (fun msg avp havp => decodeRarMember_iff (h avp havp))
    (fun msg avp _ t => decodeRarMember_count)
  rw [decodeRar, hloop]
  simp [RarFits, GxMessage.cleared]

end

end

/-- No rule of an answer is left out. -/
theorem decodeCca_count {maxNumOfFlow : Nat} {avps : List Avp} {msg : GxMessage maxNumOfFlow}
    {error : Nat} (hsucceeds : Succeeds avps)
    (h : decodeCca maxNumOfFlow avps = some (msg, error)) :
    msg.pccRule.length = (avps.map ccaWeight).sum := by
  obtain ⟨error', hresult⟩ := hsucceeds
  rw [decodeCca, hresult] at h
  simp only [Option.bind_eq_bind, Option.bind_some, ne_eq, not_true_eq_false, ↓reduceIte] at h
  obtain ⟨_, -, h⟩ := Option.bind_eq_some_iff.mp h
  obtain ⟨_, -, h⟩ := Option.bind_eq_some_iff.mp h
  obtain ⟨_, -, h⟩ := Option.bind_eq_some_iff.mp h
  have hcount := @Loop.foldlM_count _ _ avps _ (msg, error) decodeCcaMember
    (fun st => st.1.pccRule.length) ccaWeight (fun st avp _ t => decodeCcaMember_count) h
  rw [hcount]
  exact Nat.zero_add _

theorem decodeRar_count {maxNumOfFlow : Nat} {avps : List Avp} {msg : GxMessage maxNumOfFlow}
    (h : decodeRar maxNumOfFlow avps = some msg) :
    msg.pccRule.length = (avps.map rarWeight).sum := by
  have hcount := @Loop.foldlM_count _ _ avps _ msg decodeRarMember
    (fun msg => msg.pccRule.length) rarWeight (fun msg avp _ t => decodeRarMember_count) h
  rw [hcount]
  exact Nat.zero_add _

end Gx

/-! ## The decoders of Gx and Rx -/

/-- A Credit-Control-Answer, a Re-Auth-Request and an AA-Request are read to their end, within all
arrays, if and only if the rules, the flows and the media components are not more than there are
entries for them, and no group in which a member is looked for is empty. No rule and no media
component is left out then. -/
theorem decoders_iff (maxNumOfFlow : Nat) (peerHost : Option CString) (avps : List Avp) :
    ((∀ avp ∈ avps, avp.WellTyped Gx.dict) →
      ((∃ r, Gx.decodeCca maxNumOfFlow avps = some r) ↔ Gx.CcaReadable maxNumOfFlow avps) ∧
      ((∃ msg, Gx.decodeRar maxNumOfFlow avps = some msg) ↔ Gx.RarFits maxNumOfFlow avps)) ∧
    ((∀ avp ∈ avps, avp.WellTyped Rx.dict) →
      ((∃ msg, Rx.decodeAar maxNumOfFlow peerHost avps = some msg) ↔
        Rx.AarFits maxNumOfFlow avps) ∧
      ∀ msg, Rx.decodeAar maxNumOfFlow peerHost avps = some msg →
        msg.mediaComponent.length = Avp.count Rx.mediaComponentDescription avps) ∧
    (∀ r, Gx.Succeeds avps → Gx.decodeCca maxNumOfFlow avps = some r →
      r.1.pccRule.length = (avps.map Gx.ccaWeight).sum) ∧
    ∀ msg, Gx.decodeRar maxNumOfFlow avps = some msg →
      msg.pccRule.length = (avps.map Gx.rarWeight).sum := by
  refine ⟨fun h => ⟨Gx.decodeCca_iff h, Gx.decodeRar_iff h⟩,
    fun h => ⟨Rx.decodeAar_iff h, fun msg => Rx.decodeAar_count h⟩, ?_, ?_⟩
  · exact fun r hsucceeds h => Gx.decodeCca_count hsucceeds h
  · exact fun msg h => Gx.decodeRar_count h

namespace Gx

/-- A Re-Auth-Request to remove some rules. -/
def removal (rules : Nat) : List Avp :=
  [.grouped chargingRuleRemove (List.replicate rules (.octetString chargingRuleName [65]))]

theorem wellTyped_removal (rules : Nat) : ∀ avp ∈ removal rules, avp.WellTyped dict := by
  intro avp havp
  cases List.mem_singleton.mp havp
  apply Avp.WellTyped.of_grouped rfl
  intro child hchild
  cases List.eq_of_mem_replicate hchild
  exact Avp.WellTyped.of_octetString rfl

/-- A Credit-Control-Answer that installs some rules. -/
def installation (rules : Nat) : List Avp :=
  [.word resultCode erDiameterSuccess,
    .grouped chargingRuleInstall (List.replicate rules
      (.grouped chargingRuleDefinition [.octetString chargingRuleName [65]]))]

theorem wellTyped_installation (rules : Nat) :
    ∀ avp ∈ installation rules, avp.WellTyped dict := by
  intro avp havp
  rcases List.mem_cons.mp havp with rfl | havp
  · exact Avp.WellTyped.of_word rfl
  · cases List.mem_singleton.mp havp
    apply Avp.WellTyped.of_grouped rfl
    intro child hchild
    cases List.eq_of_mem_replicate hchild
    apply Avp.WellTyped.of_grouped rfl
    intro name hname
    cases List.mem_singleton.mp hname
    exact Avp.WellTyped.of_octetString rfl

end Gx

/-- An AA-Request with some media components. -/
def Rx.components (n : Nat) : List Avp :=
  List.replicate n (.grouped ⟨mediaComponentDescription, 10415⟩
    [.word ⟨mediaComponentNumber, 10415⟩ 1])

theorem Rx.wellTyped_components (n : Nat) : ∀ avp ∈ components n, avp.WellTyped dict := by
  intro avp havp
  cases List.eq_of_mem_replicate havp
  apply Avp.WellTyped.of_grouped rfl
  intro child hchild
  cases List.mem_singleton.mp hchild
  exact Avp.WellTyped.of_word rfl

theorem Gx.readable_installation {maxNumOfFlow : Nat} :
    CcaReadable maxNumOfFlow (installation 8) := by
  refine ⟨fun h => absurd h (by decide), fun _ => ⟨⟨?_, ?_⟩, by decide, ?_⟩⟩
  · exact fun avp h => absurd h (by rw [show searchMsg _ qosInformation = none from rfl]; simp)
  · exact fun avp h => absurd h (by rw [show searchMsg _ defaultEpsBearerQos = none from rfl]; simp)
  · intro avp havp hinstall avp' havp' _
    rcases List.mem_cons.mp havp with rfl | havp
    · exact absurd hinstall (by decide)
    · cases List.mem_singleton.mp havp
      cases List.eq_of_mem_replicate havp'
      refine ⟨Nat.zero_le _, fun name hname => ?_⟩
      cases List.mem_singleton.mp hname
      exact ⟨fun h => absurd h (by decide), fun h => absurd h (by decide)⟩

theorem Gx.fits_removal {maxNumOfFlow : Nat} : RarFits maxNumOfFlow (removal 8) := by
  refine ⟨by decide, fun avp havp hinstall => ?_⟩
  cases List.mem_singleton.mp havp
  exact absurd hinstall (by decide)

theorem Rx.fits_components {maxNumOfFlow : Nat} : AarFits maxNumOfFlow (components 16) := by
  refine ⟨by decide, fun avp havp _ => ?_⟩
  cases List.eq_of_mem_replicate havp
  refine ⟨by decide, fun child hchild hsub => ?_⟩
  cases List.mem_singleton.mp hchild
  exact absurd hsub (by decide)

/-- Eight rules and sixteen media components fit. -/
theorem decoders_full :
    (∀ maxNumOfFlow, ∃ r, Gx.decodeCca maxNumOfFlow (Gx.installation 8) = some r) ∧
    (∀ maxNumOfFlow, ∃ msg, Gx.decodeRar maxNumOfFlow (Gx.removal 8) = some msg) ∧
    ∀ maxNumOfFlow, ∃ msg, Rx.decodeAar maxNumOfFlow none (Rx.components 16) = some msg := by
  refine ⟨fun maxNumOfFlow => ?_, fun maxNumOfFlow => ?_, fun maxNumOfFlow => ?_⟩
  · apply ((decoders_iff maxNumOfFlow none _).1 (Gx.wellTyped_installation 8)).1.mpr
    exact Gx.readable_installation
  · apply ((decoders_iff maxNumOfFlow none _).1 (Gx.wellTyped_removal 8)).2.mpr
    exact Gx.fits_removal
  · apply ((decoders_iff maxNumOfFlow none _).2.1 (Rx.wellTyped_components 16)).1.mpr
    exact Rx.fits_components

/-- A ninth rule and a seventeenth media component are written behind their arrays. -/
theorem decoders_overflow :
    (¬∃ maxNumOfFlow, ∀ avps, (∀ avp ∈ avps, avp.WellTyped Gx.dict) →
      ∃ r, Gx.decodeCca maxNumOfFlow avps = some r) ∧
    (¬∃ maxNumOfFlow, ∀ avps, (∀ avp ∈ avps, avp.WellTyped Gx.dict) →
      ∃ msg, Gx.decodeRar maxNumOfFlow avps = some msg) ∧
    ¬∃ maxNumOfFlow, ∀ avps, (∀ avp ∈ avps, avp.WellTyped Rx.dict) →
      ∃ msg, Rx.decodeAar maxNumOfFlow none avps = some msg := by
  refine ⟨?_, ?_, ?_⟩
  · rintro ⟨maxNumOfFlow, hclaim⟩
    have hreadable := (Gx.decodeCca_iff (Gx.wellTyped_installation 9)).mp
      (hclaim _ (Gx.wellTyped_installation 9))
    exact absurd (hreadable.2 ⟨_, rfl⟩).2.1 (by decide)
  · rintro ⟨maxNumOfFlow, hclaim⟩
    have hfits := (Gx.decodeRar_iff (Gx.wellTyped_removal 9)).mp (hclaim _ (Gx.wellTyped_removal 9))
    exact absurd hfits.1 (by decide)
  · rintro ⟨maxNumOfFlow, hclaim⟩
    have hfits := (Rx.decodeAar_iff (Rx.wellTyped_components 17)).mp
      (hclaim _ (Rx.wellTyped_components 17))
    exact absurd hfits.1 (by decide)

end NextEpc

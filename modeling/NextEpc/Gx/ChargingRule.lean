import NextEpc.Lib.Avp

/-!
# Charging rules on the Gx interface

`encode_pcc_rule_definition` of the PCRF and `decode_pcc_rule_definition` of the PGW: a rule
that is written into a Charging-Rule-Definition and read into a cleared record is the rule that
was written.
-/

namespace NextEpc

/-- A string of C: the octets before the terminating zero. -/
structure CString where
  octets : Bytes
  nonzero : 0 ∉ octets
  deriving DecidableEq

/-- `ogs_strdup` and `ogs_cpystrn` from octets that a zero follows -/
def CString.copy (data : Bytes) : CString where
  octets := data.takeWhile (· != 0)
  nonzero := by
    intro h
    have h := List.mem_takeWhile_imp h
    simp at h

@[simp] theorem CString.copy_octets (s : CString) : CString.copy s.octets = s := by
  have hall : ∀ octet ∈ s.octets, (octet != 0) = true := by
    intro octet h
    have hne : octet ≠ 0 := fun h' => s.nonzero (h' ▸ h)
    simpa using hne
  cases s
  simpa [CString.copy, List.takeWhile_eq_self_iff] using hall

/-- `ogs_arp_t` -/
structure Arp where
  priorityLevel : UInt8
  preEmptionCapability : UInt8
  preEmptionVulnerability : UInt8
  deriving DecidableEq

/-- `ogs_bitrate_t` -/
structure Bitrate where
  downlink : UInt64
  uplink : UInt64
  deriving DecidableEq

/-- `ogs_qos_t` -/
structure Qos where
  qci : UInt8
  arp : Arp
  mbr : Bitrate
  gbr : Bitrate
  deriving DecidableEq

/-- `ogs_flow_t` -/
structure Flow where
  direction : UInt8
  description : Option CString
  deriving DecidableEq

/-- `ogs_pcc_rule_t`, whose array of flows has room for `maxNumOfFlow` of them -/
structure PccRule (maxNumOfFlow : Nat) where
  type : UInt8
  name : Option CString
  flow : List Flow
  flow_le : flow.length ≤ maxNumOfFlow
  flowStatus : Int32
  precedence : UInt32
  qos : Qos
  deriving DecidableEq

namespace PccRule
variable {maxNumOfFlow : Nat}

/-- The record that `ogs_calloc` gives. -/
def cleared (maxNumOfFlow : Nat) : PccRule maxNumOfFlow where
  type := 0
  name := none
  flow := []
  flow_le := Nat.zero_le _
  flowStatus := 0
  precedence := 0
  qos := ⟨0, ⟨0, 0, 0⟩, ⟨0, 0⟩, ⟨0, 0⟩⟩

end PccRule

/-! ## The dictionary -/

namespace Gx

/-- The entries of the 3GPP dictionary. -/
def dict3gpp (code : Nat) : AvpModel := ⟨code, 10415⟩

def chargingRuleDefinition : AvpModel := dict3gpp 1003
def chargingRuleName : AvpModel := dict3gpp 1005
def flowInformation : AvpModel := dict3gpp 1058
def flowDirection : AvpModel := dict3gpp 1080
def flowDescription : AvpModel := dict3gpp 507
def flowStatus : AvpModel := dict3gpp 511
def qosInformation : AvpModel := dict3gpp 1016
def qosClassIdentifier : AvpModel := dict3gpp 1028
def allocationRetentionPriority : AvpModel := dict3gpp 1034
def priorityLevel : AvpModel := dict3gpp 1046
def preEmptionCapability : AvpModel := dict3gpp 1047
def preEmptionVulnerability : AvpModel := dict3gpp 1048
def maxRequestedBandwidthUl : AvpModel := dict3gpp 516
def maxRequestedBandwidthDl : AvpModel := dict3gpp 515
def guaranteedBitrateUl : AvpModel := dict3gpp 1026
def guaranteedBitrateDl : AvpModel := dict3gpp 1025
def precedence : AvpModel := dict3gpp 1010

/-! ## The PCRF -/

variable {maxNumOfFlow : Nat}

/-- The Flow-Information of one flow; `strlen` needs a description. -/
def encodeFlow (flow : Flow) : Option Avp := do
  let description ← flow.description
  some (.grouped flowInformation [.word flowDirection flow.direction.toUInt32,
    .octetString flowDescription description.octets])

def encodeArp (arp : Arp) : Avp :=
  .grouped allocationRetentionPriority [.word priorityLevel arp.priorityLevel.toUInt32,
    .word preEmptionCapability arp.preEmptionCapability.toUInt32,
    .word preEmptionVulnerability arp.preEmptionVulnerability.toUInt32]

/-- A bit rate is tested with its 64 bits and written with the lower 32. -/
def encodeRate (model : AvpModel) (rate : UInt64) : List Avp :=
  if rate = 0 then [] else [.word model rate.toUInt32]

def encodeQos (qos : Qos) : Avp :=
  .grouped qosInformation ([.word qosClassIdentifier qos.qci.toUInt32, encodeArp qos.arp] ++
    encodeRate maxRequestedBandwidthUl qos.mbr.uplink ++
    encodeRate maxRequestedBandwidthDl qos.mbr.downlink ++
    encodeRate guaranteedBitrateUl qos.gbr.uplink ++
    encodeRate guaranteedBitrateDl qos.gbr.downlink)

/-- `encode_pcc_rule_definition`: the AVP that becomes the last one of the Charging-Rule-Install -/
def encodePccRuleDefinition (rule : PccRule maxNumOfFlow) (flowPresence : Bool) : Option Avp := do
  let name ← rule.name
  let flows ← if flowPresence then rule.flow.mapM encodeFlow else some []
  some (.grouped chargingRuleDefinition (.octetString chargingRuleName name.octets :: (flows ++
    [.word flowStatus rule.flowStatus.toUInt32, encodeQos rule.qos,
      .word precedence rule.precedence])))

/-! ## The PGW -/

/-- A Flow-Information is read into the next entry of the array. -/
def decodeFlow (avpch2 : Avp) (rule : PccRule maxNumOfFlow) : Option (PccRule maxNumOfFlow) := do
  let direction ← match ← avpch2.searchAvp flowDirection with
    | some avpch3 => avpch3.u32.map UInt32.toUInt8
    | none => some 0
  let description ← match ← avpch2.searchAvp flowDescription with
    | some avpch3 => avpch3.os.map fun data => some (CString.copy data)
    | none => some none
  if h : rule.flow.length < maxNumOfFlow then
    some { rule with
      flow := rule.flow ++ [⟨direction, description⟩]
      flow_le := by simpa using h }
  else none

def decodeArp (avpch3 : Avp) (st : Arp × Nat) : Option (Arp × Nat) := do
  let st ← avpch3.takeWord priorityLevel 1
    (fun v arp => { arp with priorityLevel := v.toUInt8 }) st
  let st ← avpch3.takeWord preEmptionCapability 1
    (fun v arp => { arp with preEmptionCapability := v.toUInt8 }) st
  avpch3.takeWord preEmptionVulnerability 1
    (fun v arp => { arp with preEmptionVulnerability := v.toUInt8 }) st

def decodeQos (avpch2 : Avp) (st : Qos × Nat) : Option (Qos × Nat) := do
  let (qos, error) ← avpch2.takeWord qosClassIdentifier 1
    (fun v qos => { qos with qci := v.toUInt8 }) st
  let (qos, error) ← match ← avpch2.searchAvp allocationRetentionPriority with
    | some avpch3 => do
      let (arp, error) ← decodeArp avpch3 (qos.arp, error)
      some ({ qos with arp := arp }, error)
    | none => some (qos, error + 1)
  let st ← avpch2.takeWord maxRequestedBandwidthUl 0
    (fun v qos => { qos with mbr := { qos.mbr with uplink := v.toUInt64 } }) (qos, error)
  let st ← avpch2.takeWord maxRequestedBandwidthDl 0
    (fun v qos => { qos with mbr := { qos.mbr with downlink := v.toUInt64 } }) st
  let st ← avpch2.takeWord guaranteedBitrateUl 0
    (fun v qos => { qos with gbr := { qos.gbr with uplink := v.toUInt64 } }) st
  avpch2.takeWord guaranteedBitrateDl 0
    (fun v qos => { qos with gbr := { qos.gbr with downlink := v.toUInt64 } }) st

/-- One round of the loop. Only the code of the AVP is looked at. -/
def decodeMember (st : PccRule maxNumOfFlow × Nat) (avpch2 : Avp) :
    Option (PccRule maxNumOfFlow × Nat) :=
  let code := avpch2.model.code
  if code = chargingRuleName.code then do
    let data ← avpch2.os
    some ({ st.1 with name := some (CString.copy data) }, st.2)
  else if code = flowInformation.code then do
    let rule ← decodeFlow avpch2 st.1
    some (rule, st.2)
  else if code = flowStatus.code then do
    let v ← avpch2.u32
    some ({ st.1 with flowStatus := v.toInt32 }, st.2)
  else if code = qosInformation.code then do
    let (qos, error) ← decodeQos avpch2 (st.1.qos, st.2)
    some ({ st.1 with qos := qos }, error)
  else if code = precedence.code then do
    let v ← avpch2.u32
    some ({ st.1 with precedence := v }, st.2)
  else some st

/-- `decode_pcc_rule_definition`: the record, and the number of errors -/
def decodePccRuleDefinition (rule : PccRule maxNumOfFlow) (avpch1 : Avp) :
    Option (PccRule maxNumOfFlow × Nat) :=
  avpch1.children.foldlM decodeMember (rule, 0)

/-! ## What is read is what was written -/

theorem decodeFlow_encodeFlow {flow : Flow} {avp : Avp} (h : encodeFlow flow = some avp)
    (rule : PccRule maxNumOfFlow) (hlt : rule.flow.length < maxNumOfFlow) :
    decodeFlow avp rule = some { rule with
      flow := rule.flow ++ [flow]
      flow_le := by simpa using hlt } := by
  obtain ⟨direction, description⟩ := flow
  cases description with
  | none => cases h
  | some description =>
    cases h
    simp [decodeFlow, Avp.searchAvp, flowDirection, flowDescription, dict3gpp, hlt]

theorem decodeMember_encodeFlow {flow : Flow} {avp : Avp} (h : encodeFlow flow = some avp)
    (st : PccRule maxNumOfFlow × Nat) :
    decodeMember st avp = (decodeFlow avp st.1).map fun rule => (rule, st.2) := by
  have hmodel : avp.model = flowInformation := by
    obtain ⟨direction, description⟩ := flow
    cases description with
    | none => cases h
    | some description =>
      cases h
      rfl
  have hname : flowInformation.code ≠ chargingRuleName.code := by decide
  simp only [decodeMember, hmodel, hname, ↓reduceIte]
  cases decodeFlow avp st.1 <;> rfl

/-- The flows are read in the order in which they were written. -/
theorem decode_flows (flows : List Flow) {avps : List Avp}
    (h : flows.mapM encodeFlow = some avps) (rule : PccRule maxNumOfFlow) (error : Nat)
    (hle : rule.flow.length + flows.length ≤ maxNumOfFlow) :
    avps.foldlM decodeMember (rule, error) = some ({ rule with
      flow := rule.flow ++ flows
      flow_le := by simpa using hle }, error) := by
  induction flows generalizing avps rule with
  | nil =>
    cases h
    simp
  | cons flow flows ih =>
    simp only [List.mapM_cons, Option.bind_eq_bind, Option.bind_eq_some_iff] at h
    obtain ⟨avp, havp, avps', havps, hcons⟩ := h
    cases hcons
    have hlt : rule.flow.length < maxNumOfFlow := by
      simp only [List.length_cons] at hle
      omega
    rw [List.foldlM_cons, decodeMember_encodeFlow havp, decodeFlow_encodeFlow havp rule hlt]
    simp only [Option.map_some, Option.bind_eq_bind, Option.bind_some]
    rw [ih havps _ (by simp at hle ⊢; omega)]
    simp

theorem find_encodeRate_of_ne {model what : AvpModel} (h : model ≠ what) (rate : UInt64) :
    (encodeRate model rate).find? (fun avp => avp.model == what) = none := by
  unfold encodeRate
  split
  · rfl
  · simp [h]

/-- A bit rate that is left out when it is zero is read back into a record that is cleared. -/
theorem takeWord_encodeRate {model what : AvpModel} {l₁ l₂ : List Avp} {rate : UInt64}
    {store : UInt32 → Qos → Qos} {st : Qos × Nat} (hl : l₁ ≠ [])
    (h₁ : l₁.find? (fun avp => avp.model == what) = none)
    (h₂ : l₂.find? (fun avp => avp.model == what) = none) (hzero : store 0 st.1 = st.1) :
    (Avp.grouped model (l₁ ++ (encodeRate what rate ++ l₂))).takeWord what 0 store st =
      some (store rate.toUInt32 st.1, st.2) := by
  have hne : l₁ ++ (encodeRate what rate ++ l₂) ≠ [] := by simp [hl]
  by_cases hrate : rate = 0
  · have hfind : (l₁ ++ (encodeRate what rate ++ l₂)).find? (fun avp => avp.model == what) =
        none := by
      rw [List.find?_append, h₁, encodeRate, if_pos hrate]
      exact h₂
    rw [Avp.takeWord_of_none hne hfind, hrate]
    exact congrArg (fun qos => some (qos, st.2)) hzero.symm
  · have hfind : (l₁ ++ (encodeRate what rate ++ l₂)).find? (fun avp => avp.model == what) =
        some (.word what rate.toUInt32) := by
      rw [List.find?_append, h₁, encodeRate, if_neg hrate]
      simp
    exact Avp.takeWord_of_find hne hfind 0 store st

theorem toUInt64_toUInt32 {rate : UInt64} (h : rate.toNat < 2 ^ 32) :
    rate.toUInt32.toUInt64 = rate := by
  apply UInt64.toNat.inj
  simp only [UInt32.toNat_toUInt64, UInt64.toNat_toUInt32]
  exact Nat.mod_eq_of_lt h

theorem decodeArp_encodeArp (arp arp' : Arp) (error : Nat) :
    decodeArp (encodeArp arp) (arp', error) = some (arp, error) := by
  simp [decodeArp, encodeArp, Avp.takeWord, Avp.searchAvp, priorityLevel, preEmptionCapability,
    preEmptionVulnerability, dict3gpp]

theorem find_append_none {p : Avp → Bool} {l₁ l₂ : List Avp} (h₁ : l₁.find? p = none)
    (h₂ : l₂.find? p = none) : (l₁ ++ l₂).find? p = none := by
  rw [List.find?_append, h₁, h₂]
  rfl

theorem decodeQos_encodeQos {qos cleared : Qos} (hcleared : cleared.mbr = ⟨0, 0⟩)
    (hcleared' : cleared.gbr = ⟨0, 0⟩) (error : Nat)
    (hmbr : qos.mbr.downlink.toNat < 2 ^ 32 ∧ qos.mbr.uplink.toNat < 2 ^ 32)
    (hgbr : qos.gbr.downlink.toNat < 2 ^ 32 ∧ qos.gbr.uplink.toNat < 2 ^ 32) :
    decodeQos (encodeQos qos) (cleared, error) = some (qos, error) := by
  obtain ⟨qci, arp, ⟨mbrDl, mbrUl⟩, ⟨gbrDl, gbrUl⟩⟩ := qos
  obtain ⟨qci', arp', mbr', gbr'⟩ := cleared
  cases hcleared
  cases hcleared'
  -- the bit rates behind the members that are always there
  let l := [Avp.word qosClassIdentifier qci.toUInt32, encodeArp arp]
  let r₁ := encodeRate maxRequestedBandwidthUl mbrUl
  let r₂ := encodeRate maxRequestedBandwidthDl mbrDl
  let r₃ := encodeRate guaranteedBitrateUl gbrUl
  let r₄ := encodeRate guaranteedBitrateDl gbrDl
  have hl : l ≠ [] := List.cons_ne_nil _ _
  have hne {model what : AvpModel} (rate : UInt64) (h : model ≠ what) :=
    find_encodeRate_of_ne h rate
  have hgroup : encodeQos ⟨qci, arp, ⟨mbrDl, mbrUl⟩, ⟨gbrDl, gbrUl⟩⟩ =
      .grouped qosInformation (l ++ (r₁ ++ (r₂ ++ (r₃ ++ r₄)))) := by
    simp [encodeQos, l, r₁, r₂, r₃, r₄]
  have hqci (store : UInt32 → Qos → Qos) (st : Qos × Nat) :
      (Avp.grouped qosInformation (l ++ (r₁ ++ (r₂ ++ (r₃ ++ r₄))))).takeWord
        qosClassIdentifier 1 store st = some (store qci.toUInt32 st.1, st.2) := by
    apply Avp.takeWord_of_find (List.append_ne_nil_of_left_ne_nil hl _)
    rfl
  have harp : (Avp.grouped qosInformation (l ++ (r₁ ++ (r₂ ++ (r₃ ++ r₄))))).searchAvp
      allocationRetentionPriority = some (some (encodeArp arp)) := by
    rw [Avp.searchAvp_grouped (List.append_ne_nil_of_left_ne_nil hl _)]
    rfl
  have hmbrUl (store : UInt32 → Qos → Qos) (st : Qos × Nat) (h : store 0 st.1 = st.1) :
      (Avp.grouped qosInformation (l ++ (r₁ ++ (r₂ ++ (r₃ ++ r₄))))).takeWord
        maxRequestedBandwidthUl 0 store st = some (store mbrUl.toUInt32 st.1, st.2) := by
    apply takeWord_encodeRate hl rfl _ h
    apply find_append_none (hne _ (by decide))
    exact find_append_none (hne _ (by decide)) (hne _ (by decide))
  have hmbrDl (store : UInt32 → Qos → Qos) (st : Qos × Nat) (h : store 0 st.1 = st.1) :
      (Avp.grouped qosInformation (l ++ (r₁ ++ (r₂ ++ (r₃ ++ r₄))))).takeWord
        maxRequestedBandwidthDl 0 store st = some (store mbrDl.toUInt32 st.1, st.2) := by
    rw [← List.append_assoc]
    apply takeWord_encodeRate (List.append_ne_nil_of_left_ne_nil hl _) _ _ h
    · exact find_append_none rfl (hne _ (by decide))
    · exact find_append_none (hne _ (by decide)) (hne _ (by decide))
  have hgbrUl (store : UInt32 → Qos → Qos) (st : Qos × Nat) (h : store 0 st.1 = st.1) :
      (Avp.grouped qosInformation (l ++ (r₁ ++ (r₂ ++ (r₃ ++ r₄))))).takeWord
        guaranteedBitrateUl 0 store st = some (store gbrUl.toUInt32 st.1, st.2) := by
    rw [← List.append_assoc r₁, ← List.append_assoc l]
    apply takeWord_encodeRate (List.append_ne_nil_of_left_ne_nil hl _) _ (hne _ (by decide)) h
    apply find_append_none rfl
    exact find_append_none (hne _ (by decide)) (hne _ (by decide))
  have hgbrDl (store : UInt32 → Qos → Qos) (st : Qos × Nat) (h : store 0 st.1 = st.1) :
      (Avp.grouped qosInformation (l ++ (r₁ ++ (r₂ ++ (r₃ ++ r₄))))).takeWord
        guaranteedBitrateDl 0 store st = some (store gbrDl.toUInt32 st.1, st.2) := by
    rw [← List.append_assoc r₂, ← List.append_assoc r₁, ← List.append_assoc l,
      ← List.append_nil r₄]
    apply takeWord_encodeRate (List.append_ne_nil_of_left_ne_nil hl _) _ rfl h
    apply find_append_none rfl
    apply find_append_none (hne _ (by decide))
    exact find_append_none (hne _ (by decide)) (hne _ (by decide))
  have hstart : decodeQos (encodeQos ⟨qci, arp, ⟨mbrDl, mbrUl⟩, ⟨gbrDl, gbrUl⟩⟩)
      (⟨qci', arp', ⟨0, 0⟩, ⟨0, 0⟩⟩, error) = some (⟨qci.toUInt32.toUInt8, arp,
        ⟨mbrDl.toUInt32.toUInt64, mbrUl.toUInt32.toUInt64⟩,
        ⟨gbrDl.toUInt32.toUInt64, gbrUl.toUInt32.toUInt64⟩⟩, error) := by
    simp only [decodeQos, hgroup, hqci, harp, decodeArp_encodeArp, Option.bind_eq_bind,
      Option.bind_some]
    rw [hmbrUl _ _ rfl, Option.bind_some, hmbrDl _ _ rfl, Option.bind_some, hgbrUl _ _ rfl,
      Option.bind_some, hgbrDl _ _ rfl]
  rw [hstart, toUInt64_toUInt32 hmbr.1, toUInt64_toUInt32 hmbr.2, toUInt64_toUInt32 hgbr.1,
    toUInt64_toUInt32 hgbr.2]
  simp

theorem mapM_encodeFlow (flows : List Flow) (h : ∀ flow ∈ flows, flow.description.isSome) :
    ∃ avps, flows.mapM encodeFlow = some avps := by
  induction flows with
  | nil => exact ⟨[], rfl⟩
  | cons flow flows ih =>
    obtain ⟨avps, havps⟩ := ih fun flow' h' => h flow' (List.mem_cons_of_mem flow h')
    obtain ⟨description, hdescription⟩ := Option.isSome_iff_exists.1 (h flow List.mem_cons_self)
    simp [encodeFlow, hdescription, havps]

/-- The members behind the flows. -/
theorem decode_members (rule st : PccRule maxNumOfFlow) (hst : st.qos.mbr = ⟨0, 0⟩)
    (hst' : st.qos.gbr = ⟨0, 0⟩) (error : Nat)
    (hmbr : rule.qos.mbr.downlink.toNat < 2 ^ 32 ∧ rule.qos.mbr.uplink.toNat < 2 ^ 32)
    (hgbr : rule.qos.gbr.downlink.toNat < 2 ^ 32 ∧ rule.qos.gbr.uplink.toNat < 2 ^ 32) :
    [Avp.word flowStatus rule.flowStatus.toUInt32, encodeQos rule.qos,
      .word precedence rule.precedence].foldlM decodeMember (st, error) = some ({ st with
        flowStatus := rule.flowStatus
        qos := rule.qos
        precedence := rule.precedence }, error) := by
  have hstatus : decodeMember (st, error) (.word flowStatus rule.flowStatus.toUInt32) =
      some ({ st with flowStatus := rule.flowStatus }, error) := by
    simp [decodeMember, flowStatus, chargingRuleName, flowInformation, dict3gpp]
  have hqos (st : PccRule maxNumOfFlow) (h : st.qos.mbr = ⟨0, 0⟩) (h' : st.qos.gbr = ⟨0, 0⟩) :
      decodeMember (st, error) (encodeQos rule.qos) = some ({ st with qos := rule.qos }, error) := by
    have hread := decodeQos_encodeQos h h' error hmbr hgbr
    have hmodel : (encodeQos rule.qos).model = qosInformation := rfl
    simp only [decodeMember, hmodel, hread]
    rfl
  have hprecedence (st : PccRule maxNumOfFlow) :
      decodeMember (st, error) (.word precedence rule.precedence) =
        some ({ st with precedence := rule.precedence }, error) := rfl
  simp only [List.foldlM_cons, List.foldlM_nil, hstatus, Option.bind_eq_bind, Option.bind_some]
  rw [hqos { st with flowStatus := rule.flowStatus } hst hst', Option.bind_some, hprecedence]
  rfl

/-- The Charging-Rule-Definition of the PCRF, with or without its flows, gives the PGW back the
rule, whose type is not part of it. -/
theorem decode_encode (rule : PccRule maxNumOfFlow) (flowPresence : Bool)
    (hname : rule.name.isSome) (hflow : ∀ flow ∈ rule.flow, flow.description.isSome)
    (hmbr : rule.qos.mbr.downlink.toNat < 2 ^ 32 ∧ rule.qos.mbr.uplink.toNat < 2 ^ 32)
    (hgbr : rule.qos.gbr.downlink.toNat < 2 ^ 32 ∧ rule.qos.gbr.uplink.toNat < 2 ^ 32) :
    ∃ avpch1, encodePccRuleDefinition rule flowPresence = some avpch1 ∧
      ∃ decoded, decodePccRuleDefinition (PccRule.cleared maxNumOfFlow) avpch1 =
        some (decoded, 0) ∧
      decoded.name = rule.name ∧ decoded.flow = (if flowPresence then rule.flow else []) ∧
      decoded.flowStatus = rule.flowStatus ∧ decoded.qos = rule.qos ∧
      decoded.precedence = rule.precedence := by
  obtain ⟨name, hname⟩ := Option.isSome_iff_exists.1 hname
  let flows := if flowPresence then rule.flow else []
  have hle : flows.length ≤ maxNumOfFlow := by
    dsimp only [flows]
    split
    · exact rule.flow_le
    · exact Nat.zero_le _
  obtain ⟨avps, havps⟩ : ∃ avps, flows.mapM encodeFlow = some avps := by
    apply mapM_encodeFlow
    dsimp only [flows]
    split
    · exact hflow
    · simp
  have hencode : encodePccRuleDefinition rule flowPresence =
      some (.grouped chargingRuleDefinition (.octetString chargingRuleName name.octets :: (avps ++
        [.word flowStatus rule.flowStatus.toUInt32, encodeQos rule.qos,
          .word precedence rule.precedence]))) := by
    cases flowPresence <;> simp_all [encodePccRuleDefinition, flows]
  let named : PccRule maxNumOfFlow := { PccRule.cleared maxNumOfFlow with name := some name }
  have hread : decodeMember (PccRule.cleared maxNumOfFlow, 0)
      (.octetString chargingRuleName name.octets) = some (named, 0) := by
    simp [decodeMember, named]
  have hflows := decode_flows flows havps named 0 (by simpa [named, PccRule.cleared] using hle)
  refine ⟨_, hencode, { named with
    flow := named.flow ++ flows
    flow_le := by simpa [named, PccRule.cleared] using hle
    flowStatus := rule.flowStatus
    qos := rule.qos
    precedence := rule.precedence }, ?_, hname.symm, List.nil_append _, rfl, rfl, rfl⟩
  rw [decodePccRuleDefinition, Avp.children_grouped, List.foldlM_cons, hread]
  simp only [Option.bind_eq_bind, Option.bind_some]
  rw [List.foldlM_append, hflows]
  simp only [Option.bind_eq_bind, Option.bind_some]
  exact decode_members rule _ rfl rfl 0 hmbr hgbr

/-- A rule with two flows, where one of the bit rates is left out. -/
def twoFlows : PccRule 8 where
  type := 0
  name := some ⟨[0x76, 0x6f], by decide⟩
  flow := [⟨1, some ⟨[0x61], by decide⟩⟩, ⟨2, some ⟨[0x62, 0x63], by decide⟩⟩]
  flow_le := by decide
  flowStatus := 2
  precedence := 100
  qos := ⟨1, ⟨2, 1, 0⟩, ⟨64000, 32000⟩, ⟨64000, 0⟩⟩

theorem decode_encode_twoFlows : ∃ avpch1, encodePccRuleDefinition twoFlows true = some avpch1 ∧
    ∃ decoded, decodePccRuleDefinition (PccRule.cleared 8) avpch1 = some (decoded, 0) ∧
      decoded.name = twoFlows.name ∧ decoded.flow = twoFlows.flow ∧
      decoded.flowStatus = twoFlows.flowStatus ∧ decoded.qos = twoFlows.qos ∧
      decoded.precedence = twoFlows.precedence :=
  decode_encode twoFlows true (by decide) (by decide) (by decide) (by decide)

end Gx
end NextEpc

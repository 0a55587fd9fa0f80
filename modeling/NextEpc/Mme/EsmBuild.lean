import NextEpc.Mme.EmmBuild
import NextEpc.Nas.BitRate

/-!
# The ESM messages that the MME builds

The functions of `esm-build.c`. The lengths of the bit rates cover all octets that are not zero, so
the messages are decoded as they were built, if an access point name is one that ogslib builds and
parses again.
-/

namespace NextEpc
open Fallible

/-! ## Records -/

/-- `ogs_nas_eps_quality_of_service_t` in memory -/
def EpsQualityOfService.record (qos : EpsQualityOfService) : NasRecord :=
  .octets [qos.length, qos.qci, qos.ulMbr.br, qos.dlMbr.br, qos.ulGbr.br, qos.dlGbr.br,
    qos.ulMbr.extended, qos.dlMbr.extended, qos.ulGbr.extended, qos.dlGbr.extended,
    qos.ulMbr.extended2, qos.dlMbr.extended2, qos.ulGbr.extended2, qos.dlGbr.extended2]

/-- `ogs_nas_apn_aggregate_maximum_bit_rate_t` in memory -/
def ApnAggregateMaximumBitRate.record (ambr : ApnAggregateMaximumBitRate) : NasRecord :=
  .octets [ambr.length, ambr.dlApnAmbr.br, ambr.ulApnAmbr.br, ambr.dlApnAmbr.extended,
    ambr.ulApnAmbr.extended, ambr.dlApnAmbr.extended2, ambr.ulApnAmbr.extended2]

/-- A record with `apn`, which ends at a zero -/
def accessPointNameRecord (apn : Bytes) : NasRecord :=
  .octets (UInt8.ofNat apn.length :: (apn ++ List.replicate (ogsMaxApnLen - apn.length) 0))

/-- `paa` of a PDN, with the half of an address that is sent -/
inductive NasPaa
  | ipv4 (addr : Vector UInt8 4)
  | ipv6 (addr6 : Vector UInt8 8)
  | ipv4v6 (addr6 : Vector UInt8 8) (addr : Vector UInt8 4)
  deriving DecidableEq, Repr

/-- `pdn_type` and the address -/
def NasPaa.octets : NasPaa → Bytes
  | ipv4 addr => 1 :: addr.toList
  | ipv6 addr6 => 2 :: addr6.toList
  | ipv4v6 addr6 addr => 3 :: (addr6.toList ++ addr.toList)

/-- `qos` of a bearer -/
structure NasQos where
  qci : UInt8
  dlMbr : UInt64
  ulMbr : UInt64
  dlGbr : UInt64
  ulGbr : UInt64
  deriving DecidableEq, Repr

/-- `eps_qos_build` -/
def NasQos.record (qos : NasQos) : NasRecord :=
  (epsQosBuild qos.qci qos.dlMbr qos.ulMbr qos.dlGbr qos.ulGbr).record

namespace NasEsmMessage

/-- A message that has been set to zero, with its identities and type -/
def build (ebi pti messageType : UInt8) (mandatory : List NasRecord)
    (present : List (UInt8 × NasRecord)) : NasEsmMessage :=
  ⟨⟨Tbcd.octet 0x02 ebi, pti, messageType⟩, .make mandatory present⟩

/-- `esm_build_pdn_connectivity_reject` -/
def esmBuildPdnConnectivityReject (pti esmCause : UInt8) : NasEsmMessage :=
  build 0 pti 0xd1 [.octets [esmCause]] []

/-- `esm_build_information_request` -/
def esmBuildInformationRequest (pti : UInt8) : NasEsmMessage := build 0 pti 0xd9 [] []

/-- `esm_build_activate_default_bearer_context_request` -/
def esmBuildActivateDefaultBearerContextRequest (ebi pti : UInt8) (qos : NasQos) (apn : Bytes)
    (paa : NasPaa) (ambr : UInt64 × UInt64) (pgwPco : Option Bytes) : NasEsmMessage :=
  build ebi pti 0xc1 [qos.record, accessPointNameRecord apn, lengthValueRecord 14 paa.octets]
    ((if ambr.1 ≠ 0 ∨ ambr.2 ≠ 0 then
        [(0x5e, (apnAmbrBuild ambr.1.toUInt32 ambr.2.toUInt32).record)] else []) ++
      (pgwPco.map fun pco => (0x27, lengthValueRecord 252 pco)).toList)

/-- `esm_build_activate_dedicated_bearer_context_request` -/
def esmBuildActivateDedicatedBearerContextRequest (ebi linkedEbi : UInt8) (qos : NasQos)
    (tft : Bytes) : NasEsmMessage :=
  build ebi 0 0xc5 [.octets [linkedEbi &&& 0xf], qos.record, lengthValueRecord 256 tft] []

/-- `esm_build_modify_bearer_context_request` -/
def esmBuildModifyBearerContextRequest (ebi pti : UInt8) (qos : Option NasQos)
    (tft : Option Bytes) : NasEsmMessage :=
  build ebi pti 0xc9 [] ((qos.map fun qos => (0x5b, qos.record)).toList ++
    (tft.map fun tft => (0x36, lengthValueRecord 256 tft)).toList)

/-- `esm_build_deactivate_bearer_context_request` -/
def esmBuildDeactivateBearerContextRequest (ebi pti esmCause : UInt8) : NasEsmMessage :=
  build ebi pti 0xcd [.octets [esmCause]] []

end NasEsmMessage

/-! ## Records that come back as they are -/

section
variable [OgsNas]

/-- The name has room in a record, and is the one that ogslib parses of what it has built. -/
structure IsApn (apn : Bytes) : Prop where
  length_lt : apn.length < ogsMaxApnLen
  notMem : 0 ∉ apn
  length_fqdnBuild : (OgsNas.fqdnBuild apn).length = apn.length + 1
  fqdnParse_fqdnBuild : OgsNas.fqdnParse (OgsNas.fqdnBuild apn) = apn

omit [OgsNas] in
theorem length_labels (label name : Bytes) :
    (OgsNas.labels label name).length = label.length + name.length + 1 := by
  induction name generalizing label with
  | nil => rfl
  | cons octet name ih =>
    rw [OgsNas.labels]
    split_ifs
    · rw [List.length_cons, List.length_append, ih, List.length_cons, List.length_nil]
      omega
    · rw [ih, List.length_append, List.length_cons, List.length_cons, List.length_nil]
      omega

omit [OgsNas] in
theorem dotted_append (label rest : Bytes) :
    OgsNas.dotted label.length (label ++ rest) = label ++ OgsNas.dotted 0 rest := by
  induction label with
  | nil => rfl
  | cons octet label ih =>
    rw [List.length_cons, List.cons_append, OgsNas.dotted, ih, List.cons_append]

omit [OgsNas] in
/-- The labels are read with a dot in front of each. -/
theorem dotted_label {label : Bytes} (h : label.length < 2 ^ 8) (rest : Bytes) :
    OgsNas.dotted 0 (UInt8.ofNat label.length :: (label ++ rest)) =
      0x2e :: (label ++ OgsNas.dotted 0 rest) := by
  have hlength : (UInt8.ofNat label.length).toNat = label.length := by
    rw [UInt8.toNat_ofNat', Nat.mod_eq_of_lt h]
  rw [OgsNas.dotted, hlength, dotted_append]

omit [OgsNas] in
theorem dotted_labels {label name : Bytes} (h : label.length + name.length < 2 ^ 8) :
    OgsNas.dotted 0 (OgsNas.labels label name) = 0x2e :: (label ++ name) := by
  induction name generalizing label with
  | nil =>
    have hlast := dotted_label h []
    rw [List.append_nil] at hlast
    exact hlast
  | cons octet name ih =>
    rw [List.length_cons] at h
    rw [OgsNas.labels]
    split_ifs with hdot
    · have hempty : ([] : Bytes).length + name.length < 2 ^ 8 := by
        rw [List.length_nil]
        omega
      rw [dotted_label (by omega), ih hempty, hdot, List.nil_append]
    · rw [ih (by rw [List.length_append, List.length_singleton]; omega), List.append_assoc,
        List.singleton_append]

omit [OgsNas] in
/-- A name with room for a zero behind it is parsed as it was built. -/
theorem isApn_reference {apn : Bytes} (hlength : apn.length < ogsMaxApnLen) (hzero : 0 ∉ apn) :
    @IsApn OgsNas.reference apn := by
  have hlt : apn.length < 100 := hlength
  refine @IsApn.mk OgsNas.reference _ hlength hzero ?_ ?_
  · rw [show OgsNas.reference.fqdnBuild apn = OgsNas.labels [] apn from rfl, length_labels,
      List.length_nil, Nat.zero_add]
  · change (OgsNas.dotted 0 (OgsNas.labels [] apn)).tail = apn
    rw [dotted_labels (by rw [List.length_nil]; omega)]
    rfl

omit [OgsNas] in
theorem takeWhile_of_notMem {apn : Bytes} (h : 0 ∉ apn) : apn.takeWhile (· ≠ 0) = apn := by
  refine List.takeWhile_eq_self_iff.mpr fun octet hoctet => ?_
  exact decide_eq_true fun heq => h (heq ▸ hoctet)

/-- A name comes back as it is. -/
theorem sends_accessPointName {apn : Bytes} (h : IsApn apn) :
    NasIe.accessPointName.Sends (accessPointNameRecord apn) (accessPointNameRecord apn) := by
  have hlt := h.length_lt
  have hnat : (UInt8.ofNat apn.length).toNat = apn.length := length_lt_of_fits (Nat.le_of_lt hlt)
  have hbuilt : builtName (UInt8.ofNat apn.length ::
      (apn ++ List.replicate (ogsMaxApnLen - apn.length) 0)) = OgsNas.fqdnBuild apn := by
    rw [builtName, List.headD_cons, List.tail_cons, hnat, List.take_left]
  have hcopy : copyApn apn apn.length = apn ++ [0] := by
    rw [copyApn, takeWhile_of_notMem h.notMem, Nat.min_eq_left (Nat.le_of_lt hlt),
      List.take_length]
  refine ⟨⟨?_, ?_, ?_, ?_⟩, ?_⟩
  · rw [List.length_cons, List.length_append, List.length_replicate]
    unfold ogsMaxApnLen at *
    unfold sizeofAccessPointName
    omega
  · rw [List.headD_cons, hnat]
    exact Nat.le_of_lt hlt
  · rw [hbuilt, h.length_fqdnBuild]
    exact hlt
  · rw [hbuilt, h.fqdnParse_fqdnBuild]
    exact hlt
  · rw [accessPointNameRecord, NasIe.received, hbuilt, h.fqdnParse_fqdnBuild, hcopy]
    have hdrop : ((OgsNas.fqdnBuild apn) ++ List.replicate (ogsMaxApnLen -
        (OgsNas.fqdnBuild apn).length) (0 : UInt8)).drop (apn ++ [0]).length =
        List.replicate (ogsMaxApnLen - (apn.length + 1)) 0 := by
      rw [List.length_append, List.length_singleton, ← h.length_fqdnBuild, List.drop_left]
    have hzeros : List.replicate (ogsMaxApnLen - apn.length) (0 : UInt8) =
        0 :: List.replicate (ogsMaxApnLen - (apn.length + 1)) 0 := by
      rw [← List.replicate_succ]
      congr 1
      omega
    rw [hdrop, hzeros, List.append_assoc, List.singleton_append]

omit [OgsNas] in
/-- What is not covered is zero. -/
theorem NasBitRate.Covered.eq_zero {o : NasBitRate} {length : Nat} (h : o.Covered length) :
    (length < 1 → o.br = 0) ∧ (length < 2 → o.extended = 0) ∧ (length < 3 → o.extended2 = 0) :=
  ⟨fun hlt => by_contra fun hne => absurd (h.1 hne) (Nat.not_le_of_lt hlt),
    fun hlt => by_contra fun hne => absurd (h.2.1 hne) (Nat.not_le_of_lt hlt),
    fun hlt => by_contra fun hne => absurd (h.2.2 hne) (Nat.not_le_of_lt hlt)⟩

omit [OgsNas] in
theorem length_epsQosBuild (qci : UInt8) (dlMbr ulMbr dlGbr ulGbr : UInt64) :
    ∃ length ≤ 3, (epsQosBuild qci dlMbr ulMbr dlGbr ulGbr).length.toNat = length * 4 + 1 := by
  have hdlMbr := length_epsQosRate_le dlMbr
  have hulMbr := length_epsQosRate_le ulMbr
  have hdlGbr := length_epsQosRate_le dlGbr
  have hulGbr := length_epsQosRate_le ulGbr
  refine ⟨max (max (max (epsQosRate dlMbr).2 (epsQosRate ulMbr).2) (epsQosRate dlGbr).2)
    (epsQosRate ulGbr).2, by omega, ?_⟩
  simp only [epsQosBuild, UInt8.toNat_ofNat']
  omega

/-- The EPS QoS comes back as it is, since its length covers all bit rates. -/
theorem sends_epsQos (qos : NasQos) : NasIe.epsQualityOfService.Sends qos.record qos.record := by
  obtain ⟨length, hle, hlength⟩ := length_epsQosBuild qos.qci qos.dlMbr qos.ulMbr qos.dlGbr qos.ulGbr
  have hcovered := covered_epsQosBuild qos.qci qos.dlMbr qos.ulMbr qos.dlGbr qos.ulGbr rfl
  have hcount : (length * 4 + 1 - 1) / 4 = length := by omega
  rw [hlength, hcount] at hcovered
  simp only [List.forall_mem_cons] at hcovered
  obtain ⟨hdlMbr, hulMbr, hdlGbr, hulGbr, -⟩ := hcovered
  have hsize : NasIe.epsQualityOfService.Fits qos.record :=
    ⟨rfl, length * 4 + 2, congrArg (fun n => Except.ok (n + 1)) hlength, Nat.le_add_left 1 _, by
      change _ ≤ 14
      omega⟩
  refine ⟨hsize, (NasIe.isNormal_plain hsize).mpr ⟨length * 4 + 2,
    congrArg (fun n => Except.ok (n + 1)) hlength, ?_⟩⟩
  match length, hle with
  | 0, _ => simp [hdlMbr.eq_zero, hulMbr.eq_zero, hdlGbr.eq_zero, hulGbr.eq_zero]
  | 1, _ => simp [hdlMbr.eq_zero, hulMbr.eq_zero, hdlGbr.eq_zero, hulGbr.eq_zero]
  | 2, _ => simp [hdlMbr.eq_zero, hulMbr.eq_zero, hdlGbr.eq_zero, hulGbr.eq_zero]
  | 3, _ => rfl

omit [OgsNas] in
theorem length_apnAmbrBuild (dlApnAmbr ulApnAmbr : UInt32) :
    ∃ length ≤ 3, (apnAmbrBuild dlApnAmbr ulApnAmbr).length.toNat = length * 2 := by
  have hdl := NasBitRate.length_brCalculate_le (dlApnAmbr / 1024).toUInt64
  have hul := NasBitRate.length_brCalculate_le (ulApnAmbr / 1024).toUInt64
  refine ⟨max (brCalculate .zero (dlApnAmbr / 1024).toUInt64).2
    (brCalculate .zero (ulApnAmbr / 1024).toUInt64).2, by omega, ?_⟩
  simp only [apnAmbrBuild, UInt8.toNat_ofNat']
  omega

theorem sends_apnAmbr (dlApnAmbr ulApnAmbr : UInt32) : NasIe.apnAggregateMaximumBitRate.Sends
    (apnAmbrBuild dlApnAmbr ulApnAmbr).record (apnAmbrBuild dlApnAmbr ulApnAmbr).record := by
  obtain ⟨length, hle, hlength⟩ := length_apnAmbrBuild dlApnAmbr ulApnAmbr
  have hcovered := covered_apnAmbrBuild dlApnAmbr ulApnAmbr
  rw [hlength, Nat.mul_div_cancel _ (by decide)] at hcovered
  obtain ⟨hdl, hul⟩ := hcovered
  have hsize : NasIe.apnAggregateMaximumBitRate.Fits (apnAmbrBuild dlApnAmbr ulApnAmbr).record :=
    ⟨rfl, length * 2 + 1, congrArg (fun n => Except.ok (n + 1)) hlength, Nat.le_add_left 1 _, by
      change _ ≤ 7
      omega⟩
  refine ⟨hsize, (NasIe.isNormal_plain hsize).mpr ⟨length * 2 + 1,
    congrArg (fun n => Except.ok (n + 1)) hlength, ?_⟩⟩
  match length, hle with
  | 0, _ => simp [hdl.eq_zero, hul.eq_zero]
  | 1, _ => simp [hdl.eq_zero, hul.eq_zero]
  | 2, _ => simp [hdl.eq_zero, hul.eq_zero]
  | 3, _ => rfl

omit [OgsNas] in
theorem NasPaa.length_octets_le (paa : NasPaa) : paa.octets.length ≤ 13 := by
  cases paa with
  | ipv4 addr => rw [octets, List.length_cons, Vector.length_toList]; decide
  | ipv6 addr6 => rw [octets, List.length_cons, Vector.length_toList]; decide
  | ipv4v6 addr6 addr =>
    rw [octets, List.length_cons, List.length_append, Vector.length_toList, Vector.length_toList]

/-! ## Messages -/

namespace NasEsmMessage

/-- The messages that the MME builds, with the lengths that its buffers have -/
inductive Built : NasMessageType → NasEsmMessage → Prop
  | pdnConnectivityReject (pti esmCause : UInt8) :
    Built .pdnConnectivityReject (esmBuildPdnConnectivityReject pti esmCause)
  | informationRequest (pti : UInt8) : Built .empty (esmBuildInformationRequest pti)
  | activateDefaultBearerContextRequest (ebi pti : UInt8) (qos : NasQos) (apn : Bytes)
    (paa : NasPaa) (ambr : UInt64 × UInt64) (pgwPco : Option Bytes) : IsApn apn →
    (∀ pco ∈ pgwPco, pco.length ≤ 251) → Built .activateDefaultEpsBearerContextRequest
      (esmBuildActivateDefaultBearerContextRequest ebi pti qos apn paa ambr pgwPco)
  | activateDedicatedBearerContextRequest (ebi linkedEbi : UInt8) (qos : NasQos) (tft : Bytes) :
    tft.length ≤ 255 → Built .activateDedicatedEpsBearerContextRequest
      (esmBuildActivateDedicatedBearerContextRequest ebi linkedEbi qos tft)
  | modifyBearerContextRequest (ebi pti : UInt8) (qos : Option NasQos) (tft : Option Bytes) :
    (∀ tft' ∈ tft, tft'.length ≤ 255) → Built .modifyEpsBearerContextRequest
      (esmBuildModifyBearerContextRequest ebi pti qos tft)
  | deactivateBearerContextRequest (ebi pti esmCause : UInt8) :
    Built .deactivateEpsBearerContextRequest
      (esmBuildDeactivateBearerContextRequest ebi pti esmCause)

variable {t : NasMessageType} {message : NasEsmMessage}

/-- What is filled in comes back as it is. -/
theorem received_make {mandatory : List NasRecord} {present : List (UInt8 × NasRecord)}
    (hmandatory : List.Forall₂ (fun ie r => ie.Sends r r) t.mandatory mandatory)
    (hpresent : ∀ e ∈ present, ∃ ie, t.optional.lookup e.1 = some ie ∧ ie.isHalf = false ∧
      ie.Sends e.2 e.2) :
    (NasBody.make mandatory present).Fits t ∧
      (NasBody.make mandatory present).received t = .make mandatory present := by
  obtain ⟨hfits, hreceived⟩ := NasBody.received_make (fun _ r => r) hmandatory hpresent
  refine ⟨hfits, hreceived.trans ?_⟩
  rw [NasBody.make, NasBody.mk.injEq, and_iff_right rfl]
  funext tag
  exact Option.map_id'

theorem Built.received (h : Built t message) :
    message.body.Fits t ∧ message.body.received t = message.body := by
  cases h with
  | pdnConnectivityReject pti esmCause => exact received_make (.cons (sends_value rfl) .nil) nofun
  | informationRequest pti => exact received_make .nil nofun
  | activateDefaultBearerContextRequest ebi pti qos apn paa ambr pgwPco hapn hpco =>
    have hpaa := paa.length_octets_le
    refine received_make (.cons (sends_epsQos qos) (.cons (sends_accessPointName hapn) (.cons
      (sends_lengthValueRecord (by omega) (by omega)) .nil))) fun e he => ?_
    cases List.mem_append.mp he with
    | inl hambr =>
      split_ifs at hambr
      · obtain rfl := List.mem_singleton.mp hambr
        exact ⟨_, rfl, rfl, sends_apnAmbr _ _⟩
      · cases hambr
    | inr hoption =>
      cases pgwPco with
      | none => cases hoption
      | some pco =>
        obtain rfl := List.mem_singleton.mp hoption
        have hlen := hpco pco rfl
        exact ⟨_, rfl, rfl, sends_lengthValueRecord (by omega) (by omega)⟩
  | activateDedicatedBearerContextRequest ebi linkedEbi qos tft htft =>
    exact received_make (.cons (sends_value rfl) (.cons (sends_epsQos qos) (.cons
      (sends_lengthValueRecord (by omega) (by omega)) .nil))) nofun
  | modifyBearerContextRequest ebi pti qos tft htft =>
    refine received_make .nil fun e he => ?_
    cases List.mem_append.mp he with
    | inl hqos =>
      cases qos with
      | none => cases hqos
      | some qos =>
        obtain rfl := List.mem_singleton.mp hqos
        exact ⟨_, rfl, rfl, sends_epsQos qos⟩
    | inr hoption =>
      cases tft with
      | none => cases hoption
      | some tft =>
        obtain rfl := List.mem_singleton.mp hoption
        have hlen := htft tft rfl
        exact ⟨_, rfl, rfl, sends_lengthValueRecord (by omega) (by omega)⟩
  | deactivateBearerContextRequest ebi pti esmCause =>
    exact received_make (.cons (sends_value rfl) .nil) nofun

theorem Built.esmType (h : Built t message) : esmType message.h.messageType = some t := by
  cases h <;> rfl

/-- A message that the MME builds is encoded if there is room for it, and decoded as it was
built. -/
theorem ogsNasEsmEncode_built (h : Built t message) (p : Pkbuf) :
    ogsNasEsmEncode message = .ok (some p) ↔
      (message.wire t).length ≤ nasCap ∧ p = .alloc ogsNasHeadroom (message.wire t) ∧
        ogsNasEsmDecode p = .ok (message, p) := by
  obtain ⟨hfits, hreceived⟩ := h.received
  have hsame : message.received t = message := by
    rw [received, hreceived]
  rw [ogsNasEsmEncode_eq_ok h.esmType hfits]
  constructor
  · rintro ⟨hroom, rfl⟩
    have hdecode := ogsNasEsmDecode_wire h.esmType hfits hroom
    rw [hsame] at hdecode
    exact ⟨hroom, rfl, hdecode⟩
  · rintro ⟨hroom, rfl, -⟩
    exact ⟨hroom, rfl⟩

end NasEsmMessage

end

namespace NasEsmMessage

attribute [local instance] OgsNas.reference

/-- A default bearer for the access point name `internet.epc` -/
theorem ogsNasEsmEncode_built_activateDefault :
    let message := esmBuildActivateDefaultBearerContextRequest 5 1 ⟨9, 0, 0, 0, 0⟩
      [105, 110, 116, 101, 114, 110, 101, 116, 46, 101, 112, 99] (.ipv4 #v[45, 45, 0, 2])
      (1024000, 2048000) (some [0x80])
    let p := Pkbuf.alloc ogsNasHeadroom (message.wire .activateDefaultEpsBearerContextRequest)
    ogsNasEsmDecode p = .ok (message, p) :=
  ((ogsNasEsmEncode_built (.activateDefaultBearerContextRequest _ _ _ _ _ _ _
    (isApn_reference (by decide) (by decide)) (by decide)) _).mp (by decide +kernel)).2.2

end NasEsmMessage

end NextEpc

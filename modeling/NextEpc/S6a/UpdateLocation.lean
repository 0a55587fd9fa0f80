import NextEpc.S6a.Message

/-!
# Update of the location

`mme_s6a_send_ulr` and `mme_s6a_ula_cb` of the MME, with `hss_ogs_diam_s6a_ulr_cb` of the HSS in
between: what the MME gets to know of the subscription that is in the database, and when it gets
to know nothing.
-/

namespace NextEpc

/-! ## Addresses -/

/-- A `struct sockaddr`, less the port. -/
inductive SockAddr
  | inet (addr : Octets4)
  | inet6 (addr : Octets16)
  deriving DecidableEq, Repr

/-- `fd_dictfct_Address_encode` -/
def SockAddr.addressEncode : SockAddr → Bytes
  | .inet addr => Octets.htons 1 ++ addr.toList
  | .inet6 addr => Octets.htons 2 ++ addr.toList

/-- `fd_dictfct_Address_interpret` -/
def addressInterpret : Bytes → Option SockAddr
  | t₁ :: t₂ :: buf =>
    if t₁.toNat * 2 ^ 8 + t₂.toNat = 1 then
      if h : buf.length = 4 then some (.inet ⟨buf.toArray, by simpa using h⟩) else none
    else if t₁.toNat * 2 ^ 8 + t₂.toNat = 2 then
      if h : buf.length = 16 then some (.inet6 ⟨buf.toArray, by simpa using h⟩) else none
    else none
  | _ => none

@[simp] theorem addressInterpret_addressEncode (addr : SockAddr) :
    addressInterpret addr.addressEncode = some addr := by
  cases addr with
  | inet addr =>
    simp [SockAddr.addressEncode, Octets.htons, addressInterpret]
    rfl
  | inet6 addr =>
    simp [SockAddr.addressEncode, Octets.htons, addressInterpret]
    rfl

namespace OgsIp
variable (ip : OgsIp)

/-- The union always uses the memory of both addresses. -/
def address (ip : OgsIp) : List SockAddr :=
  (if ip.ipv4 then [.inet ip.addrs.addr] else []) ++
    if ip.ipv6 then [.inet6 ip.addrs.bothAddr6] else []

/-- An address of the agent is put into its half of the union. -/
def addAddress (ip : OgsIp) : SockAddr → OgsIp
  | .inet addr => { ip with ipv4 := true, addrs := ip.addrs.setAddr addr }
  | .inet6 addr => { ip with ipv6 := true, addrs := ip.addrs.setBothAddr6 addr }

/-- What is left of the addresses in a record that is cleared. -/
def readdressed : OgsIp := ip.address.foldl addAddress .cleared

end OgsIp

namespace S6a
open Gx (searchMsg originHost originRealm resultCode experimentalResult experimentalResultCode
  qosClassIdentifier allocationRetentionPriority priorityLevel preEmptionCapability
  preEmptionVulnerability maxRequestedBandwidthUl maxRequestedBandwidthDl)

/-! ## The MME asks -/

/-- `OGS_DIAM_S6A_RAT_TYPE_EUTRAN` -/
def ratTypeEutran : UInt32 := 1004

/-- `OGS_DIAM_S6A_ULR_S6A_S6D_INDICATOR` -/
def ulrS6aS6dIndicator : UInt32 := 1 <<< (1 : UInt32)

/-- `OGS_DIAM_S6A_ULR_SKIP_SUBSCRIBER_DATA` -/
def ulrSkipSubscriberData : UInt32 := 1 <<< (2 : UInt32)

/-- `OGS_DIAM_S6A_UE_SRVCC_NOT_SUPPORTED` -/
def ueSrvccNotSupported : UInt32 := 0

/-- `OGS_DIAM_S6A_ULA_FLAGS_MME_REGISTERED_FOR_SMS` -/
def ulaFlagsMmeRegisteredForSms : UInt32 := 1

/-- `OGS_DIAM_S6A_RAU_TAU_DEFAULT_TIME` -/
def rauTauDefaultTime : UInt32 := 12 * 60

/-- `OGS_PDN_PRE_EMPTION_CAPABILITY_DISABLED` -/
def preEmptionCapabilityDisabled : UInt8 := 1

/-- `OGS_PDN_PRE_EMPTION_VULNERABILITY_ENABLED` -/
def preEmptionVulnerabilityEnabled : UInt8 := 0

/-- `mme_s6a_send_ulr` -/
def mmeS6aSendUlr (host : DiamHost) (sid : Bytes) (imsiBcd : CArray ogsMaxImsiBcdLen)
    (plmnId : Vector UInt8 3) : List Avp :=
  newRequest host sid ++
    [.octetString userName imsiBcd.octets, .word ratType ratTypeEutran,
      .word ulrFlags ulrS6aS6dIndicator, .octetString visitedPlmnId plmnId.toList,
      .word ueSrvccCapability ueSrvccNotSupported, vendorSpecificAppidSet applicationId]

/-! ## The HSS answers -/

/-- Rates have 64 bits and are written with the lower 32. -/
def encodeAmbr (rates : Bitrate) : Avp :=
  .grouped ambr [.word maxRequestedBandwidthUl rates.uplink.toUInt32,
    .word maxRequestedBandwidthDl rates.downlink.toUInt32]

def encodeQosProfile (qos : Qos) : Avp :=
  .grouped epsSubscribedQosProfile
    [.word qosClassIdentifier qos.qci.toUInt32, Gx.encodeArp qos.arp]

def encodeAgentInfo (ip : OgsIp) : List Avp :=
  if ip.ipv4 || ip.ipv6 then
    [.grouped mip6AgentInfo
      (ip.address.map fun addr => .octetString mipHomeAgentAddress addr.addressEncode)]
  else []

/-- The rates of a PDN are left out if there are none. -/
def encodeRates (rates : Bitrate) : List Avp :=
  if rates.downlink ≠ 0 ∨ rates.uplink ≠ 0 then [encodeAmbr rates] else []

def encodeApnConfiguration (identifier : UInt32) (pdn : OgsPdn) : Avp :=
  .grouped apnConfiguration ([.word contextIdentifier identifier, .word pdnType pdn.pdnType,
    .octetString serviceSelection pdn.apn.octets, encodeQosProfile pdn.qos] ++
    encodeAgentInfo pdn.pgwIp ++ encodeRates pdn.ambr)

/-- The loop over the PDNs. -/
def encodeApnConfigurations (pdns : List OgsPdn) : List Avp :=
  pdns.mapIdx fun i pdn => encodeApnConfiguration (UInt32.ofNat (i + 1)) pdn

def encodeProfile (pdns : List OgsPdn) : Avp :=
  .grouped apnConfigurationProfile ([.word contextIdentifier 1,
    .word allApnConfigurationIncludedIndicator 0] ++ encodeApnConfigurations pdns)

variable {maxNumOfSess : Nat}

/-- The members of the Subscription-Data that are always there. -/
def alwaysMembers (data : SubscriptionData maxNumOfSess) : List Avp :=
  [.word subscriberStatus data.subscriberStatus, .word networkAccessMode data.networkAccessMode,
    encodeAmbr data.ambr, .word subscribedRauTauTimer (data.subscribedRauTauTimer * 60)]

/-- The members in front of the APN-Configuration-Profile. -/
def subscriptionMembers (data : SubscriptionData maxNumOfSess) : List Avp :=
  (if data.accessRestrictionData ≠ 0 then
    [.word accessRestrictionData data.accessRestrictionData] else []) ++ alwaysMembers data

def encodeProfiles (pdns : List OgsPdn) : List Avp := if pdns ≠ [] then [encodeProfile pdns] else []

def encodeSubscriptionData (data : SubscriptionData maxNumOfSess) : Avp :=
  .grouped subscriptionData (subscriptionMembers data ++ encodeProfiles data.pdn)

/-- `hss_ogs_diam_s6a_ulr_cb`, with `hss_db_subscription_data` as `db` -/
def hssUlrCb (db : CArray ogsMaxImsiBcdLen → Option (SubscriptionData maxNumOfSess))
    (host : DiamHost) (qry : List Avp) : Option (List Avp) := do
  let imsiBcd ← requestImsi qry
  match db imsiBcd with
  | none => some (hssOut host qry errorUserUnknown)
  | some data => do
    let _ ← searchMsg qry visitedPlmnId
    let avp ← searchMsg qry ulrFlags
    let flags ← avp.u32
    some (newAnswerFromReq qry ++ rescodeSet host ++
      [.word authSessionState 1, .word ulaFlags ulaFlagsMmeRegisteredForSms] ++
      (if flags &&& ulrSkipSubscriberData = 0 then [encodeSubscriptionData data] else []) ++
      [vendorSpecificAppidSet applicationId])

/-! ## The MME reads the answer -/

def decodeAmbr (avp : Avp) (st : Bitrate × Nat) : Option (Bitrate × Nat) := do
  let st ← avp.takeWord maxRequestedBandwidthUl 1
    (fun v rates => { rates with uplink := v.toUInt64 }) st
  avp.takeWord maxRequestedBandwidthDl 1 (fun v rates => { rates with downlink := v.toUInt64 }) st

def decodeArp (avpch4 : Avp) (st : Arp × Nat) : Option (Arp × Nat) := do
  let st ← avpch4.takeWord priorityLevel 1
    (fun v arp => { arp with priorityLevel := v.toUInt8 }) st
  let st ← avpch4.takeWordOr preEmptionCapability
    (fun v arp => { arp with preEmptionCapability := v.toUInt8 })
    (fun arp => { arp with preEmptionCapability := preEmptionCapabilityDisabled }) st
  avpch4.takeWordOr preEmptionVulnerability
    (fun v arp => { arp with preEmptionVulnerability := v.toUInt8 })
    (fun arp => { arp with preEmptionVulnerability := preEmptionVulnerabilityEnabled }) st

def decodeQosProfile (avpch3 : Avp) (st : Qos × Nat) : Option (Qos × Nat) := do
  let st ← avpch3.takeWord qosClassIdentifier 1 (fun v qos => { qos with qci := v.toUInt8 }) st
  avpch3.takeAvp allocationRetentionPriority 1
    (fun avpch4 st => do
      let (arp, error) ← decodeArp avpch4 (st.1.arp, st.2)
      some ({ st.1 with arp := arp }, error)) st

/-- One round of the loop over the MIP6-Agent-Info. -/
def decodeAgentMember (st : OgsIp × Nat) (avpch4 : Avp) : Option (OgsIp × Nat) :=
  if avpch4.model.code = mipHomeAgentAddress.code then do
    let data ← avpch4.os
    let addr ← addressInterpret data
    some (st.1.addAddress addr, st.2)
  else some (st.1, st.2 + 1)

/-! The groups of an APN-Configuration. -/

def readServiceSelection (avpch3 : Avp) (st : OgsPdn × Nat) : Option (OgsPdn × Nat) := do
  let data ← avpch3.os
  some ({ st.1 with apn := .copy _ data }, st.2)

def readQosProfile (avpch3 : Avp) (st : OgsPdn × Nat) : Option (OgsPdn × Nat) := do
  let (qos, error) ← decodeQosProfile avpch3 (st.1.qos, st.2)
  some ({ st.1 with qos := qos }, error)

def readAgentInfo (avpch3 : Avp) (st : OgsPdn × Nat) : Option (OgsPdn × Nat) := do
  let (ip, error) ← avpch3.children.foldlM decodeAgentMember (st.1.pgwIp, st.2)
  some ({ st.1 with pgwIp := ip }, error)

def readPdnAmbr (avpch3 : Avp) (st : OgsPdn × Nat) : Option (OgsPdn × Nat) := do
  let (rates, error) ← decodeAmbr avpch3 (st.1.ambr, st.2)
  some ({ st.1 with ambr := rates }, error)

/-- An APN-Configuration is read into a record that is cleared. -/
def decodeApnConfiguration (avpch2 : Avp) (error : Nat) : Option (OgsPdn × Nat) := do
  let st ← avpch2.takeAvp serviceSelection 1 readServiceSelection (OgsPdn.cleared, error)
  let st ← avpch2.takeWord contextIdentifier 1
    (fun v pdn => { pdn with contextIdentifier := v }) st
  let st ← avpch2.takeWord pdnType 1 (fun v pdn => { pdn with pdnType := v }) st
  let st ← avpch2.takeAvp epsSubscribedQosProfile 1 readQosProfile st
  let st ← avpch2.takeAvp mip6AgentInfo 0 readAgentInfo st
  avpch2.takeAvp ambr 0 readPdnAmbr st

/-- One round of the loop over the APN-Configuration-Profile. The next entry of `pdn` is used
without a look at how many there are. -/
def decodeProfileMember (st : SubscriptionData maxNumOfSess × Nat) (avpch2 : Avp) :
    Option (SubscriptionData maxNumOfSess × Nat) :=
  let code := avpch2.model.code
  if code = contextIdentifier.code then do
    let v ← avpch2.u32
    some ({ st.1 with contextIdentifier := v }, st.2)
  else if code = allApnConfigurationIncludedIndicator.code then some st
  else if code = apnConfiguration.code then
    if h : st.1.pdn.length < maxNumOfSess then do
      let (pdn, error) ← decodeApnConfiguration avpch2 st.2
      some ({ st.1 with
        pdn := st.1.pdn ++ [pdn]
        pdn_le := by simpa using h }, error)
    else none
  else some st

def readUeAmbr (avpch1 : Avp) (st : SubscriptionData maxNumOfSess × Nat) :
    Option (SubscriptionData maxNumOfSess × Nat) := do
  let (rates, error) ← decodeAmbr avpch1 (st.1.ambr, st.2)
  some ({ st.1 with ambr := rates }, error)

def readProfile (avpch1 : Avp) (st : SubscriptionData maxNumOfSess × Nat) :
    Option (SubscriptionData maxNumOfSess × Nat) :=
  avpch1.children.foldlM decodeProfileMember st

def decodeSubscriptionData (avp : Avp) (st : SubscriptionData maxNumOfSess × Nat) :
    Option (SubscriptionData maxNumOfSess × Nat) := do
  let st ← avp.takeAvp ambr 1 readUeAmbr st
  let st ← avp.takeWordOr subscribedRauTauTimer
    (fun v data => { data with subscribedRauTauTimer := v })
    (fun data => { data with subscribedRauTauTimer := rauTauDefaultTime }) st
  avp.takeAvp apnConfigurationProfile 1 readProfile st

/-- What `ogs_diam_s6a_message_t` has of an Update-Location-Answer. -/
structure UlaMessage (maxNumOfSess : Nat) where
  resultCode : UInt32
  ulaFlags : UInt32
  subscriptionData : SubscriptionData maxNumOfSess

/-- `mme_s6a_ula_cb`: the message, and the number of errors -/
def decodeUla (maxNumOfSess : Nat) (avps : List Avp) : Option (UlaMessage maxNumOfSess × Nat) := do
  let (result, error) ← answerResult avps
  let (flags, error) ← match searchMsg avps ulaFlags with
    | some avp => avp.u32.map fun v => (v, error)
    | none => some (0, error + 1)
  let (data, error) ← match searchMsg avps subscriptionData with
    | some avp => decodeSubscriptionData avp (.cleared maxNumOfSess, error)
    | none => some (.cleared maxNumOfSess, error + 1)
  some (⟨result, flags, data⟩, error)

/-- The event that `mme_s6a_ula_cb` pushes. -/
def mmeS6aUlaCb (maxNumOfSess : Nat) (avps : List Avp) : Option (Option (UlaMessage maxNumOfSess)) :=
  (decodeUla maxNumOfSess avps).map pushIfFree

/-! ## What is read is what was written -/

/-- A rate as it is read: its lower 32 bits. -/
def reread (rates : Bitrate) : Bitrate :=
  ⟨rates.downlink.toUInt32.toUInt64, rates.uplink.toUInt32.toUInt64⟩

theorem decodeAmbr_encodeAmbr (rates old : Bitrate) (error : Nat) :
    decodeAmbr (encodeAmbr rates) (old, error) = some (reread rates, error) := by
  simp [decodeAmbr, encodeAmbr, reread, Avp.takeWord, Avp.searchAvp, maxRequestedBandwidthUl,
    maxRequestedBandwidthDl, Gx.dict3gpp]

theorem decodeArp_encodeArp (arp old : Arp) (error : Nat) :
    decodeArp (Gx.encodeArp arp) (old, error) = some (arp, error) := by
  simp [decodeArp, Gx.encodeArp, Avp.takeWord, Avp.takeWordOr, Avp.searchAvp, priorityLevel,
    preEmptionCapability, preEmptionVulnerability, Gx.dict3gpp]

theorem decodeQosProfile_encodeQosProfile (qos old : Qos) (error : Nat) :
    decodeQosProfile (encodeQosProfile qos) (old, error) =
      some ({ old with qci := qos.qci, arp := qos.arp }, error) := by
  have hne : [Avp.word qosClassIdentifier qos.qci.toUInt32, Gx.encodeArp qos.arp] ≠ [] :=
    List.cons_ne_nil _ _
  rw [decodeQosProfile, encodeQosProfile, Avp.takeWord_of_find hne rfl]
  simp only [Option.bind_eq_bind, Option.bind_some]
  rw [Avp.takeAvp_of_find hne (show _ = some (Gx.encodeArp qos.arp) from rfl), decodeArp_encodeArp]
  simp

/-- The addresses of the agent are read one after the other. -/
theorem decode_addresses (addrs : List SockAddr) (ip : OgsIp) (error : Nat) :
    (addrs.map fun addr => Avp.octetString mipHomeAgentAddress addr.addressEncode).foldlM
      decodeAgentMember (ip, error) = some (addrs.foldl OgsIp.addAddress ip, error) := by
  induction addrs generalizing ip with
  | nil => rfl
  | cons addr addrs ih =>
    have hstep : decodeAgentMember (ip, error)
        (.octetString mipHomeAgentAddress addr.addressEncode) =
          some (ip.addAddress addr, error) := by
      simp [decodeAgentMember]
    rw [List.map_cons, List.foldlM_cons, hstep]
    exact ih _

theorem address_eq_nil {ip : OgsIp} (h : (ip.ipv4 || ip.ipv6) = false) : ip.address = [] := by
  rw [Bool.or_eq_false_iff] at h
  simp [OgsIp.address, h.1, h.2]

/-- What the MME has of a PDN: the rates with 32 bits, the QoS of the default bearer, and the
addresses in a record that is cleared. -/
def rereadPdn (identifier : UInt32) (pdn : OgsPdn) : OgsPdn where
  contextIdentifier := identifier
  apn := pdn.apn
  pdnType := pdn.pdnType
  qos := ⟨pdn.qos.qci, pdn.qos.arp, ⟨0, 0⟩, ⟨0, 0⟩⟩
  ambr := reread pdn.ambr
  pgwIp := pdn.pgwIp.readdressed

/-- The members of an APN-Configuration that are always there. -/
def pdnMembers (identifier : UInt32) (pdn : OgsPdn) : List Avp :=
  [.word contextIdentifier identifier, .word pdnType pdn.pdnType,
    .octetString serviceSelection pdn.apn.octets, encodeQosProfile pdn.qos]

theorem find_members {identifier : UInt32} {pdn : OgsPdn} (what : AvpModel) {avp : Avp}
    {l : List Avp}
    (h : (pdnMembers identifier pdn).find? (fun avp => avp.model == what) = some avp) :
    (pdnMembers identifier pdn ++ l).find? (fun avp => avp.model == what) = some avp := by
  rw [List.find?_append, h, Option.some_or]

theorem find_agentInfo {ip : OgsIp} {what : AvpModel} (h : mip6AgentInfo ≠ what) :
    (encodeAgentInfo ip).find? (fun avp => avp.model == what) = none := by
  unfold encodeAgentInfo
  split
  · simp [h]
  · rfl

theorem find_rates {rates : Bitrate} {what : AvpModel} (h : ambr ≠ what) :
    (encodeRates rates).find? (fun avp => avp.model == what) = none := by
  unfold encodeRates
  split
  · simp [encodeAmbr, h]
  · rfl

/-- The MIP6-Agent-Info behind the members that are always there. -/
theorem takeAgentInfo {l r : List Avp} {m : AvpModel} {ip : OgsIp} {pdn : OgsPdn} {error : Nat}
    (hne : l ≠ []) (hl : l.find? (fun avp => avp.model == mip6AgentInfo) = none)
    (hr : r.find? (fun avp => avp.model == mip6AgentInfo) = none) (hpdn : pdn.pgwIp = .cleared) :
    (Avp.grouped m (l ++ (encodeAgentInfo ip ++ r))).takeAvp mip6AgentInfo 0 readAgentInfo
      (pdn, error) = some ({ pdn with pgwIp := ip.readdressed }, error) := by
  have hmembers : l ++ (encodeAgentInfo ip ++ r) ≠ [] := List.append_ne_nil_of_left_ne_nil hne _
  cases hip : ip.ipv4 || ip.ipv6 with
  | false =>
    have hfind : (l ++ (encodeAgentInfo ip ++ r)).find? (fun avp => avp.model == mip6AgentInfo) =
        none := by
      simp [List.find?_append, hl, hr, encodeAgentInfo, hip]
    rw [Avp.takeAvp_of_none hmembers hfind]
    simp [OgsIp.readdressed, address_eq_nil hip, ← hpdn]
  | true =>
    have hfind : (l ++ (encodeAgentInfo ip ++ r)).find? (fun avp => avp.model == mip6AgentInfo) =
        some (.grouped mip6AgentInfo
          (ip.address.map fun addr => .octetString mipHomeAgentAddress addr.addressEncode)) := by
      simp [List.find?_append, hl, encodeAgentInfo, hip]
    rw [Avp.takeAvp_of_find hmembers hfind]
    simp [readAgentInfo, decode_addresses, OgsIp.readdressed, hpdn]

/-- The AMBR, which is left out where both rates are zero. -/
theorem takeRates {l : List Avp} {m : AvpModel} {rates : Bitrate} {pdn : OgsPdn} {error : Nat}
    (hne : l ≠ []) (hl : l.find? (fun avp => avp.model == ambr) = none)
    (hpdn : pdn.ambr = ⟨0, 0⟩) :
    (Avp.grouped m (l ++ encodeRates rates)).takeAvp ambr 0 readPdnAmbr (pdn, error) =
      some ({ pdn with ambr := reread rates }, error) := by
  have hmembers : l ++ encodeRates rates ≠ [] := List.append_ne_nil_of_left_ne_nil hne _
  by_cases hrates : rates.downlink ≠ 0 ∨ rates.uplink ≠ 0
  · have hfind : (l ++ encodeRates rates).find? (fun avp => avp.model == ambr) =
        some (encodeAmbr rates) := by
      rw [List.find?_append, hl, encodeRates, if_pos hrates]
      rfl
    rw [Avp.takeAvp_of_find hmembers hfind]
    simp [readPdnAmbr, decodeAmbr_encodeAmbr]
  · have hfind : (l ++ encodeRates rates).find? (fun avp => avp.model == ambr) = none := by
      rw [List.find?_append, hl, encodeRates, if_neg hrates]
      rfl
    rw [Avp.takeAvp_of_none hmembers hfind]
    push Not at hrates
    simp [reread, hrates.1, hrates.2, ← hpdn]

theorem readServiceSelection_octets (apn : CArray ogsMaxApnLen) (pdn : OgsPdn) (error : Nat) :
    readServiceSelection (.octetString serviceSelection apn.octets) (pdn, error) =
      some ({ pdn with apn := apn }, error) := by
  simp [readServiceSelection]

theorem readQosProfile_encodeQosProfile (qos : Qos) (pdn : OgsPdn) (error : Nat) :
    readQosProfile (encodeQosProfile qos) (pdn, error) =
      some ({ pdn with qos := { pdn.qos with qci := qos.qci, arp := qos.arp } }, error) := by
  simp [readQosProfile, decodeQosProfile_encodeQosProfile]

theorem decodeApnConfiguration_encodeApnConfiguration (identifier : UInt32) (pdn : OgsPdn)
    (error : Nat) : decodeApnConfiguration (encodeApnConfiguration identifier pdn) error =
      some (rereadPdn identifier pdn, error) := by
  have hne : pdnMembers identifier pdn ≠ [] := List.cons_ne_nil _ _
  have hmembers (l : List Avp) : pdnMembers identifier pdn ++ l ≠ [] :=
    List.append_ne_nil_of_left_ne_nil hne _
  have hgroup : encodeApnConfiguration identifier pdn = .grouped apnConfiguration
      (pdnMembers identifier pdn ++ (encodeAgentInfo pdn.pgwIp ++ encodeRates pdn.ambr)) := by
    simp [encodeApnConfiguration, pdnMembers]
  rw [hgroup, decodeApnConfiguration,
    Avp.takeAvp_of_find (hmembers _) (find_members serviceSelection rfl),
    readServiceSelection_octets]
  simp only [Option.bind_eq_bind, Option.bind_some]
  rw [Avp.takeWord_of_find (hmembers _) (find_members _ rfl), Option.bind_some,
    Avp.takeWord_of_find (hmembers _) (find_members _ rfl), Option.bind_some,
    Avp.takeAvp_of_find (hmembers _) (find_members epsSubscribedQosProfile rfl),
    readQosProfile_encodeQosProfile, Option.bind_some]
  rw [takeAgentInfo hne rfl (find_rates (by decide)) rfl, Option.bind_some,
    ← List.append_assoc, takeRates (hmembers _) _ rfl]
  · simp [rereadPdn, OgsPdn.cleared]
  · rw [List.find?_append, find_agentInfo (by decide)]
    rfl

theorem decodeProfileMember_encodeApnConfiguration (identifier : UInt32) (pdn : OgsPdn)
    (data : SubscriptionData maxNumOfSess) (error : Nat) (hlt : data.pdn.length < maxNumOfSess) :
    decodeProfileMember (data, error) (encodeApnConfiguration identifier pdn) = some ({ data with
      pdn := data.pdn ++ [rereadPdn identifier pdn]
      pdn_le := by simpa using hlt }, error) := by
  have hmodel : (encodeApnConfiguration identifier pdn).model = apnConfiguration := rfl
  have hidentifier : apnConfiguration.code ≠ contextIdentifier.code := by decide
  have hindicator : apnConfiguration.code ≠ allApnConfigurationIncludedIndicator.code := by decide
  simp [decodeProfileMember, hmodel, hidentifier, hindicator, hlt,
    decodeApnConfiguration_encodeApnConfiguration]

/-- The PDNs are read in the order in which they were written, whatever their identifiers. -/
theorem decode_pdns (pdns : List OgsPdn) (identifier : Nat → UInt32)
    (data : SubscriptionData maxNumOfSess) (error : Nat)
    (hle : data.pdn.length + pdns.length ≤ maxNumOfSess) :
    (pdns.mapIdx fun i pdn => encodeApnConfiguration (identifier i) pdn).foldlM
      decodeProfileMember (data, error) = some ({ data with
        pdn := data.pdn ++ pdns.mapIdx fun i pdn => rereadPdn (identifier i) pdn
        pdn_le := by simpa using hle }, error) := by
  induction pdns generalizing identifier data with
  | nil => simp
  | cons pdn pdns ih =>
    rw [List.length_cons] at hle
    have hlt : data.pdn.length < maxNumOfSess := by omega
    have hrest : (data.pdn ++ [rereadPdn (identifier 0) pdn]).length + pdns.length ≤
        maxNumOfSess := by
      rw [List.length_append, List.length_singleton]
      omega
    rw [List.mapIdx_cons, List.foldlM_cons,
      decodeProfileMember_encodeApnConfiguration _ _ _ _ hlt]
    simp only [Option.bind_eq_bind, Option.bind_some]
    rw [ih (fun i => identifier (i + 1)) _ hrest]
    simp [List.mapIdx_cons]

/-- What the MME has of a subscription with PDNs. Three of its fields are not read. -/
def rereadSubscription (data : SubscriptionData maxNumOfSess) : SubscriptionData maxNumOfSess where
  accessRestrictionData := 0
  subscriberStatus := 0
  networkAccessMode := 0
  ambr := reread data.ambr
  subscribedRauTauTimer := data.subscribedRauTauTimer * 60
  contextIdentifier := 1
  pdn := data.pdn.mapIdx fun i pdn => rereadPdn (UInt32.ofNat (i + 1)) pdn
  pdn_le := by simpa using data.pdn_le

theorem readProfile_encodeProfile (pdns : List OgsPdn) (data : SubscriptionData maxNumOfSess)
    (error : Nat) (hle : pdns.length ≤ maxNumOfSess) (hdata : data.pdn = []) :
    readProfile (encodeProfile pdns) (data, error) = some ({ data with
      contextIdentifier := 1
      pdn := pdns.mapIdx fun i pdn => rereadPdn (UInt32.ofNat (i + 1)) pdn
      pdn_le := by simpa using hle }, error) := by
  have hidentifier : decodeProfileMember (data, error) (.word contextIdentifier 1) =
      some ({ data with contextIdentifier := 1 }, error) := rfl
  have hindicator (data : SubscriptionData maxNumOfSess) : decodeProfileMember (data, error)
      (.word allApnConfigurationIncludedIndicator 0) = some (data, error) := rfl
  have hroom : ({ data with contextIdentifier := 1 } : SubscriptionData maxNumOfSess).pdn.length +
      pdns.length ≤ maxNumOfSess := by
    simpa [hdata] using hle
  simp only [readProfile, encodeProfile, Avp.children_grouped, List.cons_append, List.nil_append,
    List.foldlM_cons, hidentifier, hindicator, Option.bind_eq_bind, Option.bind_some,
    encodeApnConfigurations]
  rw [decode_pdns pdns (fun i => UInt32.ofNat (i + 1)) _ error hroom]
  simp [hdata]

/-- A subscription without PDNs is one error. -/
theorem decodeSubscriptionData_encodeSubscriptionData (data : SubscriptionData maxNumOfSess)
    (error : Nat) : decodeSubscriptionData (encodeSubscriptionData data) (.cleared _, error) =
      if data.pdn = [] then some ({ SubscriptionData.cleared maxNumOfSess with
        ambr := reread data.ambr
        subscribedRauTauTimer := data.subscribedRauTauTimer * 60 }, error + 1)
      else some (rereadSubscription data, error) := by
  have hne (l : List Avp) : subscriptionMembers data ++ l ≠ [] :=
    List.append_ne_nil_of_left_ne_nil (by simp [subscriptionMembers, alwaysMembers]) _
  have hfind (what : AvpModel) {avp : Avp} (l : List Avp) (hwhat : accessRestrictionData ≠ what)
      (h : (alwaysMembers data).find? (fun avp => avp.model == what) = some avp) :
      (subscriptionMembers data ++ l).find? (fun avp => avp.model == what) = some avp := by
    rw [List.find?_append, subscriptionMembers, List.find?_append, h]
    split <;> simp [hwhat]
  rw [encodeSubscriptionData, decodeSubscriptionData,
    Avp.takeAvp_of_find (hne _) (hfind ambr _ (by decide) rfl), readUeAmbr,
    decodeAmbr_encodeAmbr]
  simp only [Option.bind_eq_bind, Option.bind_some]
  rw [Avp.takeWordOr_of_find (hne _) (hfind _ _ (by decide) rfl), Option.bind_some]
  by_cases hpdn : data.pdn = []
  · have hnone : (subscriptionMembers data ++ encodeProfiles data.pdn).find?
        (fun avp => avp.model == apnConfigurationProfile) = none := by
      rw [encodeProfiles, hpdn, List.find?_append, subscriptionMembers, List.find?_append]
      split <;> rfl
    rw [Avp.takeAvp_of_none (hne _) hnone, if_pos hpdn]
  · have hprofile : (subscriptionMembers data ++ encodeProfiles data.pdn).find?
        (fun avp => avp.model == apnConfigurationProfile) = some (encodeProfile data.pdn) := by
      rw [encodeProfiles, if_pos hpdn, List.find?_append, subscriptionMembers, List.find?_append]
      split <;> rfl
    rw [Avp.takeAvp_of_find (hne _) hprofile, if_neg hpdn,
      readProfile_encodeProfile _ _ _ data.pdn_le rfl]
    rfl

/-! ## The exchange -/

section
variable (db : CArray ogsMaxImsiBcdLen → Option (SubscriptionData maxNumOfSess))
variable (mme hss : DiamHost) (sid : Bytes) (imsiBcd : CArray ogsMaxImsiBcdLen)
variable (plmnId : Vector UInt8 3)

/-- The answer of the HSS to the MME. -/
theorem hssUlrCb_mmeS6aSendUlr : hssUlrCb db hss (mmeS6aSendUlr mme sid imsiBcd plmnId) =
    some (.octetString sessionId sid :: match db imsiBcd with
      | none => experimentalRescodeSet hss errorUserUnknown ++
          [.word authSessionState 1, vendorSpecificAppidSet applicationId]
      | some data => rescodeSet hss ++ [.word authSessionState 1,
          .word ulaFlags ulaFlagsMmeRegisteredForSms, encodeSubscriptionData data,
          vendorSpecificAppidSet applicationId]) := by
  have himsi : requestImsi (mmeS6aSendUlr mme sid imsiBcd plmnId) = some imsiBcd := by
    have hfind : searchMsg (mmeS6aSendUlr mme sid imsiBcd plmnId) userName =
        some (.octetString userName imsiBcd.octets) := rfl
    simp [requestImsi, hfind]
  rw [hssUlrCb, himsi]
  cases hdb : db imsiBcd with
  | none => simp [hdb]; rfl
  | some data => simp [hdb]; rfl

/-- The event that the MME pushes for the answer of the HSS to its request. It is pushed if and
only if the subscriber is known and has a PDN, and it always says that the update has succeeded:
a subscriber who is not known is never rejected. -/
theorem mmeS6aUlaCb_hssUlrCb :
    (hssUlrCb db hss (mmeS6aSendUlr mme sid imsiBcd plmnId)).bind (mmeS6aUlaCb maxNumOfSess) =
      some ((db imsiBcd).bind fun data => if data.pdn = [] then none
        else some ⟨erDiameterSuccess, ulaFlagsMmeRegisteredForSms, rereadSubscription data⟩) := by
  rw [hssUlrCb_mmeS6aSendUlr, Option.bind_some, mmeS6aUlaCb]
  cases hdb : db imsiBcd with
  | none => rfl
  | some data =>
    let answer := Avp.octetString sessionId sid :: (rescodeSet hss ++
      [.word authSessionState 1, .word ulaFlags ulaFlagsMmeRegisteredForSms,
        encodeSubscriptionData data, vendorSpecificAppidSet applicationId])
    have hresult : answerResult answer = some (erDiameterSuccess, 0) := rfl
    have hflags : searchMsg answer ulaFlags = some (.word ulaFlags ulaFlagsMmeRegisteredForSms) :=
      rfl
    have hdata : searchMsg answer subscriptionData = some (encodeSubscriptionData data) := rfl
    change (decodeUla maxNumOfSess answer).map pushIfFree = _
    rw [decodeUla, hresult]
    simp only [hflags, hdata, Avp.u32_word, Option.map_some, Option.bind_eq_bind, Option.bind_some,
      decodeSubscriptionData_encodeSubscriptionData]
    by_cases hpdn : data.pdn = []
    · simp [hpdn, pushIfFree]
    · simp [hpdn, pushIfFree]

end

/-! ## Profiles that are too long -/

section
variable {st st' : SubscriptionData maxNumOfSess × Nat} {avp : Avp}

/-- Each APN-Configuration takes an entry of the array, and nothing else does. -/
theorem decodeProfileMember_count (h : decodeProfileMember st avp = some st') :
    st'.1.pdn.length =
      st.1.pdn.length + if avp.model.code = apnConfiguration.code then 1 else 0 := by
  simp only [decodeProfileMember] at h
  split_ifs at h with hidentifier hindicator hconfiguration hlt
  · have hne : avp.model.code ≠ apnConfiguration.code := by
      rw [hidentifier]
      decide
    obtain ⟨v, -, heq⟩ := Option.bind_eq_some_iff.mp h
    cases heq
    rw [if_neg hne, Nat.add_zero]
  · have hne : avp.model.code ≠ apnConfiguration.code := by
      rw [hindicator]
      decide
    cases h
    rw [if_neg hne, Nat.add_zero]
  · obtain ⟨pdn, -, heq⟩ := Option.bind_eq_some_iff.mp h
    cases heq
    rw [if_pos hconfiguration, List.length_append, List.length_singleton]
  · cases h
    rw [if_neg hconfiguration, Nat.add_zero]

theorem readProfile_count {avps : List Avp} (h : avps.foldlM decodeProfileMember st = some st') :
    st'.1.pdn.length = st.1.pdn.length + Avp.count apnConfiguration.code avps := by
  induction avps generalizing st with
  | nil =>
    cases h
    rfl
  | cons avp avps ih =>
    obtain ⟨next, hstep, hrest⟩ := Option.bind_eq_some_iff.mp h
    have hone := decodeProfileMember_count hstep
    have hmore := ih hrest
    rw [Avp.count_eq_sum] at hmore ⊢
    rw [List.map_cons, List.sum_cons]
    omega

end

/-- The APN-Configuration-Profile that the MME finds in an answer. -/
def answerProfile (avps : List Avp) : Option Avp := do
  let data ← searchMsg avps subscriptionData
  let found ← data.searchAvp apnConfigurationProfile
  found

/-- The member with which there is one more of its kind than `n`. -/
theorem exists_count_eq {code n : Nat} {avps : List Avp} (h : n < Avp.count code avps) :
    ∃ before avp after, avps = before ++ avp :: after ∧ avp.model.code = code ∧
      Avp.count code before = n := by
  induction avps generalizing n with
  | nil => exact absurd h (Nat.not_lt_zero n)
  | cons avp avps ih =>
    have hcons (l : List Avp) : Avp.count code (avp :: l) =
        (if avp.model.code = code then 1 else 0) + Avp.count code l := by
      rw [Avp.count_eq_sum, Avp.count_eq_sum, List.map_cons, List.sum_cons]
    rw [hcons] at h
    by_cases hcode : avp.model.code = code
    · simp only [if_pos hcode] at h hcons
      cases n with
      | zero => exact ⟨[], avp, avps, rfl, hcode, rfl⟩
      | succ n =>
        obtain ⟨before, found, after, rfl, hfound, hcount⟩ := ih (n := n) (by omega)
        exact ⟨avp :: before, found, after, rfl, hfound, by rw [hcons, hcount, Nat.add_comm]⟩
    · simp only [if_neg hcode, Nat.zero_add] at h hcons
      obtain ⟨before, found, after, rfl, hfound, hcount⟩ := ih h
      exact ⟨avp :: before, found, after, rfl, hfound, by rw [hcons, hcount]⟩

/-- An answer with more PDNs than the record has room for is never read to its end: when the members
before the PDN that is one too many have been read, all entries are used, and it is written behind
the array. -/
theorem decodeUla_overflow {avps : List Avp} {profile : Avp}
    (hprofile : answerProfile avps = some profile)
    (hlt : maxNumOfSess < Avp.count apnConfiguration.code profile.children) :
    decodeUla maxNumOfSess avps = none ∧ ∃ before avp after,
      profile.children = before ++ avp :: after ∧ avp.model.code = apnConfiguration.code ∧
        ∀ st st' : SubscriptionData maxNumOfSess × Nat, st.1.pdn = [] →
          before.foldlM decodeProfileMember st = some st' →
            st'.1.pdn.length = maxNumOfSess := by
  obtain ⟨before, avp, after, hchildren, hcode, hbefore⟩ := exists_count_eq hlt
  refine ⟨?_, before, avp, after, hchildren, hcode, fun st st' hst h => ?_⟩
  case refine_2 =>
    rw [readProfile_count h, hst, hbefore]
    exact Nat.zero_add _
  obtain ⟨data, hdata, hsearch⟩ := Option.bind_eq_some_iff.mp hprofile
  obtain ⟨found, hfound, hfind⟩ := Option.bind_eq_some_iff.mp hsearch
  cases hfind
  have hread (st : SubscriptionData maxNumOfSess × Nat) : readProfile profile st = none := by
    cases hst : readProfile profile st with
    | none => rfl
    | some st' =>
      have hcount := readProfile_count hst
      have hle := st'.1.pdn_le
      omega
  have hgroup (error : Nat) : decodeSubscriptionData data
      (SubscriptionData.cleared maxNumOfSess, error) = none := by
    simp [decodeSubscriptionData, Avp.takeAvp, hfound, hread]
  rw [decodeUla]
  cases answerResult avps with
  | none => rfl
  | some result =>
    cases searchMsg avps ulaFlags with
    | none => simp [hdata, hgroup]
    | some avp => simp [hdata, hgroup]

/-- Five PDNs for a record that has room for four. -/
theorem decodeUla_overflow_one : decodeUla 4 [encodeSubscriptionData
    ({ SubscriptionData.cleared 5 with
      pdn := List.replicate 5 .cleared, pdn_le := le_rfl })] = none :=
  (decodeUla_overflow (show _ = some (encodeProfile (List.replicate 5 .cleared)) from rfl)
    (by decide)).1

end S6a
end NextEpc

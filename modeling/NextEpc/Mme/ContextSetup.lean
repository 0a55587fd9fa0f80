import NextEpc.Gtp.Types
import NextEpc.Gx.ChargingRule
import NextEpc.S1ap.Conv

/-!
# Initial Context Setup Requests

The message that sets up the context of a UE in an eNB has an item for each bearer. A NAS message
goes along with a bearer, in a buffer that is copied and freed.
-/

namespace NextEpc

open Octets

inductive ContextSetupSite
  | enbUe
  | csmap
  | pTmsi
  | conv (site : S1apConvSite)
  deriving DecidableEq, Repr

abbrev ContextSetupM := Fallible ContextSetupSite

/-- What the message has of `mme_bearer_t` -/
structure ContextBearer where
  ebi : UInt8
  qos : Qos
  sgwS1uTeid : UInt32
  sgwS1uIp : OgsIp

/-- `mme_csmap_t`, with whether its VLR is connected -/
structure ContextCsmap where
  lac : UInt16
  vlrConnected : Bool

/-- What the message has of `mme_ue_t`. The identities are those of the eNB and of the MME. -/
structure ContextUe where
  enbUe : Option (UInt32 × UInt32)
  ambr : Bitrate
  sessions : List (List ContextBearer)
  eea : UInt8
  eia : UInt8
  kenb : Vector UInt8 32
  extendedServiceRequest : Bool
  pTmsi : UInt32
  csmap : Option ContextCsmap
  taiPlmnId : OgsPlmnId
  ueRadioCapability : Bytes

/-- `S1AP_GBR_QosInformation_t` -/
structure GbrQosInformation where
  maximumBitrate : Bitrate
  guaranteedBitrate : Bitrate
  deriving DecidableEq

/-- `S1AP_E_RABToBeSetupItemCtxtSUReq_t` -/
structure ErabToBeSetupItem where
  eRabId : UInt8
  qCI : UInt8
  priorityLevel : UInt8
  preEmptionCapability : Bool
  preEmptionVulnerability : Bool
  gbrQosInformation : Option GbrQosInformation
  transportLayerAddress : BitString
  gTpTeid : Octets4
  nAsPdu : Option Bytes

/-- `S1AP_InitialContextSetupRequest_t` -/
structure InitialContextSetupRequest where
  mmeUeS1apId : UInt32
  enbUeS1apId : UInt32
  ueAggregateMaximumBitrate : Bitrate
  eRabToBeSetupList : List ErabToBeSetupItem
  encryptionAlgorithms : Bytes
  integrityProtectionAlgorithms : Bytes
  securityKey : Vector UInt8 32
  /-- Where the CS fallback indicator is there -/
  registeredLai : Option (OgsPlmnId × UInt16)
  ueRadioCapability : Option Bytes

/-! ## The buffer -/

/-- `emmbuf` -/
inductive EmmBuf
  | null
  | allocated (data : Bytes)
  | freed
  deriving DecidableEq, Repr

namespace EmmBuf

def ofMessage : Option Bytes → EmmBuf
  | none => null
  | some data => allocated data

/-- The `nAS_PDU` of an item. The length of a buffer that was freed is read again. -/
def nasPdu : EmmBuf → ContextSetupM (Option Bytes × EmmBuf)
  | null => .ok (none, null)
  | allocated [] => .ok (none, allocated [])
  | allocated (octet :: octets) => .ok (some (octet :: octets), freed)
  | freed => .error .dangling

end EmmBuf

/-! ## The items -/

section
variable (maxBitRate : UInt64)

def ContextBearer.hasBitRate (bearer : ContextBearer) : Prop :=
  bearer.qos.mbr.downlink ≠ 0 ∨ bearer.qos.mbr.uplink ≠ 0 ∨ bearer.qos.gbr.downlink ≠ 0 ∨
    bearer.qos.gbr.uplink ≠ 0

instance (bearer : ContextBearer) : Decidable bearer.hasBitRate :=
  inferInstanceAs (Decidable (_ ∨ _))

/-- Bit rates of 0 are replaced in the bearer, if there is another one. -/
def ContextBearer.raised (bearer : ContextBearer) : ContextBearer :=
  let qos := bearer.qos
  let raise (rate : UInt64) : UInt64 := if rate = 0 then maxBitRate else rate
  if bearer.hasBitRate then
    { bearer with qos := { qos with
        mbr := { downlink := raise qos.mbr.downlink, uplink := raise qos.mbr.uplink }
        gbr := { downlink := raise qos.gbr.downlink, uplink := raise qos.gbr.uplink } } }
  else bearer

def ContextBearer.gbrQosInformation (bearer : ContextBearer) : Option GbrQosInformation :=
  let qos := (bearer.raised maxBitRate).qos
  if bearer.hasBitRate then some ⟨qos.mbr, qos.gbr⟩ else none

/-- The body of the inner loop -/
def setupBearer (state : List ErabToBeSetupItem × EmmBuf) (bearer : ContextBearer) :
    ContextSetupM (List ErabToBeSetupItem × EmmBuf) := do
  let (items, emmbuf) := state
  let transportLayerAddress ← (ipToBitString bearer.sgwS1uIp).at .conv
  let (nAsPdu, emmbuf) ← emmbuf.nasPdu
  let item : ErabToBeSetupItem :=
    { eRabId := bearer.ebi
      qCI := bearer.qos.qci
      priorityLevel := bearer.qos.arp.priorityLevel
      preEmptionCapability := bearer.qos.arp.preEmptionCapability = 0
      preEmptionVulnerability := bearer.qos.arp.preEmptionVulnerability = 0
      gbrQosInformation := bearer.gbrQosInformation maxBitRate
      transportLayerAddress
      gTpTeid := htonl bearer.sgwS1uTeid
      nAsPdu }
  .ok (items ++ [item], emmbuf)

def setupSession (state : List ErabToBeSetupItem × EmmBuf) (bearers : List ContextBearer) :
    ContextSetupM (List ErabToBeSetupItem × EmmBuf) :=
  bearers.foldlM (setupBearer maxBitRate) state

namespace ContextUe
variable (ue : ContextUe)

/-- `MME_P_TMSI_IS_AVAILABLE` -/
def pTmsiIsAvailable : Bool :=
  (match ue.csmap with
    | some csmap => csmap.vlrConnected
    | none => false) && ue.pTmsi ≠ 0

def registeredLai : ContextSetupM (Option (OgsPlmnId × UInt16)) :=
  if ue.extendedServiceRequest && ue.pTmsiIsAvailable then do
    let csmap ← Fallible.assertSome .csmap ue.csmap
    Fallible.assert .pTmsi (ue.pTmsi ≠ 0)
    .ok (some (ue.taiPlmnId, csmap.lac))
  else .ok none

/-- `s1ap_build_initial_context_setup_request`, up to the encoding -/
def s1apBuildInitialContextSetupRequest (emmbuf : EmmBuf) :
    ContextSetupM (ContextUe × InitialContextSetupRequest × EmmBuf) := do
  let (enbUeS1apId, mmeUeS1apId) ← Fallible.assertSome .enbUe ue.enbUe
  let (items, emmbuf) ← ue.sessions.foldlM (setupSession maxBitRate) ([], emmbuf)
  let registeredLai ← ue.registeredLai
  let request : InitialContextSetupRequest :=
    { mmeUeS1apId, enbUeS1apId
      ueAggregateMaximumBitrate := ue.ambr
      eRabToBeSetupList := items
      encryptionAlgorithms := [ue.eea <<< 1, 0]
      integrityProtectionAlgorithms := [ue.eia <<< 1, 0]
      securityKey := ue.kenb
      registeredLai
      ueRadioCapability := if ue.ueRadioCapability = [] then none else some ue.ueRadioCapability }
  let sessions := ue.sessions.map fun bearers => bearers.map (ContextBearer.raised maxBitRate)
  .ok ({ ue with sessions }, request, emmbuf)

end ContextUe
end

/-! ## The bearers in a request -/

/-- The bearer has an address of the SGW. -/
def ContextBearer.HasTunnel (bearer : ContextBearer) : Prop :=
  bearer.sgwS1uIp.ipv4 = true ∨ bearer.sgwS1uIp.ipv6 = true

instance : DecidablePred ContextBearer.HasTunnel := fun _ =>
  inferInstanceAs (Decidable (_ ∨ _))

/-- The item is that of the bearer. -/
structure ErabToBeSetupItem.IsOf (item : ErabToBeSetupItem) (bearer : ContextBearer) : Prop where
  eRabId : item.eRabId = bearer.ebi
  gTpTeid : item.gTpTeid = htonl bearer.sgwS1uTeid
  transportLayerAddress : ipToBitString bearer.sgwS1uIp = .ok item.transportLayerAddress

namespace ContextUe

def bearers (ue : ContextUe) : List ContextBearer := ue.sessions.flatten

/-- There is an item for each bearer with a tunnel, the NAS message is in exactly one of them, and
its buffer has been freed once. -/
def SetsUp (maxBitRate : UInt64) (ue : ContextUe) (message : Option Bytes) : Prop :=
  ∃ ue' request emmbuf, ue.s1apBuildInitialContextSetupRequest maxBitRate
      (EmmBuf.ofMessage message) = .ok (ue', request, emmbuf) ∧
    List.Forall₂ ErabToBeSetupItem.IsOf request.eRabToBeSetupList
      (ue.bearers.filter (·.HasTunnel)) ∧
    request.eRabToBeSetupList.filterMap (·.nAsPdu) = message.toList ∧
    (message.isSome = true → emmbuf = .freed)

/-- There is a connection, all bearers have a tunnel, and a NAS message goes along with a single
bearer. -/
structure SingleBearer (ue : ContextUe) (message : Option Bytes) : Prop where
  enbUe : ue.enbUe.isSome = true
  tunnels : ∀ bearer ∈ ue.bearers, bearer.HasTunnel
  single : ∀ data ∈ message, data ≠ [] ∧ ue.bearers.length = 1

end ContextUe

/-! ## One bearer -/

section
variable {maxBitRate : UInt64} {items : List ErabToBeSetupItem} {emmbuf : EmmBuf}
  {bearer : ContextBearer} {bearers : List ContextBearer}
  {state : List ErabToBeSetupItem × EmmBuf}

theorem hasTunnel_iff {ip : OgsIp} :
    (ip.ipv4 = true ∨ ip.ipv6 = true) ↔ ∃ bitString, ipToBitString ip = .ok bitString := by
  unfold ipToBitString
  cases ip.ipv4 <;> cases ip.ipv6 <;> simp

theorem of_setupBearer (h : setupBearer maxBitRate (items, emmbuf) bearer = .ok state) :
    ∃ item, state.1 = items ++ [item] ∧ item.IsOf bearer ∧
      emmbuf.nasPdu = .ok (item.nAsPdu, state.2) := by
  simp only [setupBearer, Fallible.bind_eq_ok, S1apConvM.at_eq_ok, Except.ok.injEq,
    Prod.exists] at h
  obtain ⟨address, haddress, nAsPdu, emmbuf', hpdu, rfl⟩ := h
  exact ⟨_, rfl, ⟨rfl, rfl, haddress⟩, hpdu⟩

theorem setupBearer_of (maxBitRate : UInt64) (items : List ErabToBeSetupItem)
    {nAsPdu : Option Bytes} {emmbuf' : EmmBuf} (htunnel : bearer.HasTunnel)
    (hpdu : emmbuf.nasPdu = .ok (nAsPdu, emmbuf')) :
    ∃ item, setupBearer maxBitRate (items, emmbuf) bearer = .ok (items ++ [item], emmbuf') ∧
      item.IsOf bearer ∧ item.nAsPdu = nAsPdu := by
  obtain ⟨address, haddress⟩ := hasTunnel_iff.mp htunnel
  simp only [setupBearer, haddress, hpdu, Fallible.ok_bind, S1apConvM.at]
  exact ⟨_, rfl, ⟨rfl, rfl, haddress⟩, rfl⟩

/-! ## All bearers -/

/-- Every bearer has a tunnel if the loop ends, and an item. -/
theorem of_setupBearers (h : bearers.foldlM (setupBearer maxBitRate) (items, emmbuf) = .ok state) :
    (∀ bearer ∈ bearers, bearer.HasTunnel) ∧ ∃ new, state.1 = items ++ new ∧
      List.Forall₂ ErabToBeSetupItem.IsOf new bearers := by
  induction bearers generalizing items emmbuf with
  | nil =>
    cases h
    exact ⟨nofun, [], (List.append_nil _).symm, .nil⟩
  | cons bearer bearers ih =>
    rw [List.foldlM_cons] at h
    obtain ⟨⟨items', emmbuf'⟩, hfirst, hrest⟩ := Fallible.bind_eq_ok.mp h
    obtain ⟨item, rfl, hof, -⟩ := of_setupBearer hfirst
    obtain ⟨htunnels, new, hnew, hall⟩ := ih hrest
    refine ⟨List.forall_mem_cons.mpr ⟨?_, htunnels⟩, item :: new, ?_, .cons hof hall⟩
    · exact hasTunnel_iff.mpr ⟨_, hof.transportLayerAddress⟩
    · rw [hnew, List.append_assoc, List.singleton_append]

/-- A buffer that gives nothing to an item stays as it is. -/
theorem setupBearers_quiet (maxBitRate : UInt64) (items : List ErabToBeSetupItem)
    (hquiet : emmbuf.nasPdu = .ok (none, emmbuf))
    (htunnels : ∀ bearer ∈ bearers, bearer.HasTunnel) :
    ∃ new, bearers.foldlM (setupBearer maxBitRate) (items, emmbuf) = .ok (items ++ new, emmbuf) ∧
      List.Forall₂ ErabToBeSetupItem.IsOf new bearers ∧ new.filterMap (·.nAsPdu) = [] := by
  induction bearers generalizing items with
  | nil => exact ⟨[], congrArg Except.ok (by rw [List.append_nil]), .nil, rfl⟩
  | cons bearer bearers ih =>
    obtain ⟨htunnel, htunnels⟩ := List.forall_mem_cons.mp htunnels
    obtain ⟨item, hfirst, hof, hpdu⟩ := setupBearer_of maxBitRate items htunnel hquiet
    obtain ⟨new, hrest, hall, hnone⟩ := ih (items ++ [item]) htunnels
    refine ⟨item :: new, ?_, .cons hof hall, ?_⟩
    · rw [List.foldlM_cons, hfirst, Fallible.ok_bind, hrest, List.append_assoc,
        List.singleton_append]
    · rw [List.filterMap_cons_none hpdu, hnone]

/-- A buffer that was freed is used by the next bearer. -/
theorem setupBearers_freed (h : bearers.foldlM (setupBearer maxBitRate) (items, .freed) =
    .ok state) : bearers = [] := by
  cases bearers with
  | nil => rfl
  | cons bearer bearers =>
    rw [List.foldlM_cons] at h
    obtain ⟨state', hfirst, -⟩ := Fallible.bind_eq_ok.mp h
    obtain ⟨item, -, -, hpdu⟩ := of_setupBearer hfirst
    cases hpdu

/-- A message is copied and freed by the first bearer, so that there is no other one. -/
theorem setupBearers_message {octet : UInt8} {octets : Bytes}
    (h : bearers.foldlM (setupBearer maxBitRate) (items, .allocated (octet :: octets)) = .ok state) :
    bearers = [] ∧ state.2 = .allocated (octet :: octets) ∨ bearers.length = 1 := by
  cases bearers with
  | nil =>
    cases h
    exact .inl ⟨rfl, rfl⟩
  | cons bearer bearers =>
    rw [List.foldlM_cons] at h
    obtain ⟨⟨items', emmbuf'⟩, hfirst, hrest⟩ := Fallible.bind_eq_ok.mp h
    obtain ⟨item, -, -, hpdu⟩ := of_setupBearer hfirst
    obtain ⟨-, rfl⟩ := Prod.mk.inj (Except.ok.inj hpdu)
    rw [setupBearers_freed hrest]
    exact .inr rfl

theorem foldlM_setupSession (sessions : List (List ContextBearer))
    (state : List ErabToBeSetupItem × EmmBuf) : sessions.foldlM (setupSession maxBitRate) state =
      sessions.flatten.foldlM (setupBearer maxBitRate) state := by
  induction sessions generalizing state with
  | nil => rfl
  | cons bearers sessions ih =>
    rw [List.foldlM_cons, List.flatten_cons, List.foldlM_append]
    exact bind_congr fun state' => ih state'

end

/-! ## The request -/

namespace ContextUe
variable {maxBitRate : UInt64} {ue ue' : ContextUe} {request : InitialContextSetupRequest}
  {emmbuf emmbuf' : EmmBuf}

/-- What the registered LAI needs is there where it is sent. -/
theorem registeredLai_eq_ok (ue : ContextUe) : ∃ lai, ue.registeredLai = .ok lai := by
  unfold registeredLai
  split_ifs with h
  · rw [Bool.and_eq_true, pTmsiIsAvailable, Bool.and_eq_true, decide_eq_true_eq] at h
    obtain ⟨-, hcsmap, hpTmsi⟩ := h
    cases hsome : ue.csmap with
    | none =>
      rw [hsome] at hcsmap
      cases hcsmap
    | some csmap =>
      rw [Fallible.assertSome_some, Fallible.ok_bind, Fallible.assert_of hpTmsi, Fallible.ok_bind]
      exact ⟨_, rfl⟩
  · exact ⟨none, rfl⟩

theorem of_build (h : ue.s1apBuildInitialContextSetupRequest maxBitRate emmbuf =
    .ok (ue', request, emmbuf')) : ue.enbUe.isSome = true ∧
      ue.bearers.foldlM (setupBearer maxBitRate) ([], emmbuf) =
        .ok (request.eRabToBeSetupList, emmbuf') := by
  simp only [s1apBuildInitialContextSetupRequest, Fallible.bind_eq_ok, Fallible.assertSome_eq_ok,
    foldlM_setupSession, Prod.exists, Except.ok.injEq, Prod.mk.injEq] at h
  obtain ⟨enbUeS1apId, mmeUeS1apId, henbUe, items, emmbuf'', hloop, lai, -, -, rfl, rfl⟩ := h
  exact ⟨by rw [henbUe, Option.isSome_some], hloop⟩

theorem build_of {items : List ErabToBeSetupItem} (henbUe : ue.enbUe.isSome = true)
    (hloop : ue.bearers.foldlM (setupBearer maxBitRate) ([], emmbuf) = .ok (items, emmbuf')) :
    ∃ ue' request, ue.s1apBuildInitialContextSetupRequest maxBitRate emmbuf =
      .ok (ue', request, emmbuf') ∧ request.eRabToBeSetupList = items := by
  obtain ⟨⟨enbUeS1apId, mmeUeS1apId⟩, henbUe⟩ := Option.isSome_iff_exists.mp henbUe
  obtain ⟨lai, hlai⟩ := registeredLai_eq_ok ue
  have hsessions : ue.sessions.foldlM (setupSession maxBitRate) ([], emmbuf) =
      .ok (items, emmbuf') := (foldlM_setupSession _ _).trans hloop
  simp only [s1apBuildInitialContextSetupRequest, henbUe, Fallible.assertSome_some,
    Fallible.ok_bind, hsessions, hlai]
  exact ⟨_, _, rfl, rfl⟩

theorem filter_bearers (h : ∀ bearer ∈ ue.bearers, bearer.HasTunnel) :
    ue.bearers.filter (·.HasTunnel) = ue.bearers :=
  List.filter_eq_self.mpr fun bearer hbearer => decide_eq_true (h bearer hbearer)

/-- A message is sent with exactly one bearer if that is the only one. Otherwise it is freed again,
or not at all. -/
theorem setsUp_iff (maxBitRate : UInt64) (ue : ContextUe) (message : Option Bytes) :
    ue.SetsUp maxBitRate message ↔ ue.SingleBearer message := by
  constructor
  · rintro ⟨ue', request, emmbuf, hbuild, -, hpdu, hfreed⟩
    obtain ⟨henbUe, hloop⟩ := of_build hbuild
    obtain ⟨htunnels, -⟩ := of_setupBearers hloop
    refine ⟨henbUe, htunnels, ?_⟩
    rintro data hdata
    obtain rfl := Option.mem_def.mp hdata
    obtain rfl := hfreed rfl
    cases data with
    | nil =>
      have hempty : (EmmBuf.allocated []).nasPdu = .ok (none, .allocated []) := rfl
      obtain ⟨new, hquiet, -⟩ := setupBearers_quiet maxBitRate [] hempty htunnels
      have heq := hloop.symm.trans hquiet
      cases heq
    | cons octet octets =>
      refine ⟨List.cons_ne_nil _ _, ?_⟩
      rcases setupBearers_message hloop with ⟨-, hstate⟩ | hone
      · cases hstate
      · exact hone
  · rintro ⟨henbUe, htunnels, hsingle⟩
    cases message with
    | none =>
      have hnull : EmmBuf.null.nasPdu = .ok (none, .null) := rfl
      obtain ⟨new, hloop, hall, hnone⟩ := setupBearers_quiet maxBitRate [] hnull htunnels
      obtain ⟨ue', request, hbuild, rfl⟩ := build_of henbUe hloop
      refine ⟨ue', request, .null, hbuild, ?_, hnone, nofun⟩
      rw [filter_bearers htunnels]
      exact hall
    | some data =>
      obtain ⟨hne, hlength⟩ := hsingle data rfl
      obtain ⟨octet, octets, rfl⟩ := List.exists_cons_of_ne_nil hne
      obtain ⟨bearer, hbearer⟩ := List.length_eq_one_iff.mp hlength
      have htunnel := htunnels bearer (by rw [hbearer]; exact List.mem_singleton_self bearer)
      have hcopied : (EmmBuf.allocated (octet :: octets)).nasPdu =
          .ok (some (octet :: octets), .freed) := rfl
      obtain ⟨item, hfirst, hof, hpdu⟩ := setupBearer_of maxBitRate [] htunnel hcopied
      have hloop : ue.bearers.foldlM (setupBearer maxBitRate)
          ([], .allocated (octet :: octets)) = .ok ([item], .freed) := by
        rw [hbearer, List.foldlM_cons, hfirst]
        rfl
      obtain ⟨ue', request, hbuild, hitems⟩ := build_of henbUe hloop
      refine ⟨ue', request, .freed, hbuild, ?_, ?_, fun _ => rfl⟩
      · rw [filter_bearers htunnels, hitems, hbearer]
        exact .cons hof .nil
      · rw [hitems, List.filterMap_cons_some hpdu]
        rfl

/-- A UE with a default and a dedicated bearer -/
def ueOfTwo : ContextUe where
  enbUe := some (1, 1)
  ambr := ⟨0, 0⟩
  sessions := [[5, 6].map fun ebi =>
    { ebi, qos := ⟨9, ⟨8, 0, 0⟩, ⟨0, 0⟩, ⟨0, 0⟩⟩, sgwS1uTeid := 1,
      sgwS1uIp := ⟨AddrUnion.zero.setAddr #v[10, 0, 0, 2], ogsIpv4Len, true, false⟩ }]
  eea := 0
  eia := 0
  kenb := Vector.replicate 32 0
  extendedServiceRequest := false
  pTmsi := 0
  csmap := none
  taiPlmnId := Vector.replicate 3 0
  ueRadioCapability := []

/-- The second bearer uses the message after it was freed. -/
theorem not_setsUp_two : ¬ueOfTwo.SetsUp 10000000000 (some [7]) := by
  rintro ⟨ue', request, emmbuf, hbuild, -⟩
  obtain ⟨-, hloop⟩ := of_build hbuild
  cases hloop

end ContextUe
end NextEpc

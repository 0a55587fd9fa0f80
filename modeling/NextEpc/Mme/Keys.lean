import NextEpc.Mme.SecurityMode

/-!
# The keys of one authentication

A Security Mode Command derives the NAS keys from KASME and a request derives `KeNB` from it.
Neither happens when an Authentication-Information-Answer replaces KASME.
-/

namespace NextEpc

namespace MmeUe
variable [OgsCrypt]

/-- The NAS keys are derived from KASME. -/
structure NasKeyed (ue : MmeUe) : Prop where
  knasInt : ue.knasInt = mmeKdfNas mmeKdfNasIntAlg ue.selectedIntAlgorithm ue.kasme
  knasEnc : ue.knasEnc = mmeKdfNas mmeKdfNasEncAlg ue.selectedEncAlgorithm ue.kasme

/-- `KeNB` is derived from KASME. -/
def EnbKeyed (ue : MmeUe) : Prop := ∃ ulCount, ue.kenb = mmeKdfEnb ue.kasme ulCount

end MmeUe

namespace MmeLog

/-- What has happened since the last Authentication-Information-Answer. -/
def sinceAia (log : MmeLog) : MmeLog := History.since (fun item => item.call.aia?.isSome) log

/-- A Security Mode Command has been built for the KASME that is stored. -/
def HasSecurityModeCommand (log : MmeLog) : Prop :=
  ∃ item ∈ sinceAia log, item.call.securityModeCommand?.isSome = true

/-- `KeNB` has been derived from the KASME that is stored. -/
def HasKdfEnb (log : MmeLog) : Prop := ∃ item ∈ sinceAia log, item.kdfEnb?.isSome = true

instance (log : MmeLog) : Decidable (HasSecurityModeCommand log) :=
  inferInstanceAs (Decidable (∃ _ ∈ _, _))

instance (log : MmeLog) : Decidable (HasKdfEnb log) := inferInstanceAs (Decidable (∃ _ ∈ _, _))

variable {log : MmeLog} {cause : Option Handling} {call : MmeCall}

theorem sinceAia_cons (h : call.aia? = none) :
    sinceAia (⟨cause, call⟩ :: log) = ⟨cause, call⟩ :: sinceAia log := by
  apply History.since_cons_of_not
  rw [h]
  rfl

theorem sinceAia_aia {id : Nat} {vector : EUtranVector} :
    sinceAia (⟨cause, .aia id vector⟩ :: log) = [] :=
  History.since_cons_of rfl

theorem hasSecurityModeCommand_cons (haia : call.aia? = none)
    (hcall : call.securityModeCommand? = none) :
    HasSecurityModeCommand (⟨cause, call⟩ :: log) ↔ HasSecurityModeCommand log := by
  unfold HasSecurityModeCommand
  rw [sinceAia_cons haia, List.exists_mem_cons_iff, hcall]
  simp

theorem hasKdfEnb_cons (haia : call.aia? = none) (hcall : MmeLogItem.kdfEnb? ⟨cause, call⟩ = none) :
    HasKdfEnb (⟨cause, call⟩ :: log) ↔ HasKdfEnb log := by
  unfold HasKdfEnb
  rw [sinceAia_cons haia, List.exists_mem_cons_iff, hcall]
  simp

end MmeLog

section
variable [OgsCrypt] {ue ue' : MmeUe} {cfg : MmeConfig} {m m' : Mme}

theorem MmeUe.NasKeyed.congr (hk : ue.NasKeyed) (hue : ue'.security = ue.security) :
    ue'.NasKeyed where
  knasInt := by
    have hknasInt : ue'.knasInt = ue.knasInt := congrArg (fun ue => ue.knasInt) hue
    have hkasme : ue'.kasme = ue.kasme := congrArg (fun ue => ue.kasme) hue
    have halgorithm : ue'.selectedIntAlgorithm = ue.selectedIntAlgorithm :=
      congrArg (fun ue => ue.selectedIntAlgorithm) hue
    rw [hknasInt, hkasme, halgorithm, hk.knasInt]
  knasEnc := by
    have hknasEnc : ue'.knasEnc = ue.knasEnc := congrArg (fun ue => ue.knasEnc) hue
    have hkasme : ue'.kasme = ue.kasme := congrArg (fun ue => ue.kasme) hue
    have halgorithm : ue'.selectedEncAlgorithm = ue.selectedEncAlgorithm :=
      congrArg (fun ue => ue.selectedEncAlgorithm) hue
    rw [hknasEnc, hkasme, halgorithm, hk.knasEnc]

theorem MmeUe.EnbKeyed.congr (hk : ue.EnbKeyed) (hue : ue'.security = ue.security) :
    ue'.EnbKeyed := by
  obtain ⟨ulCount, hkenb⟩ := hk
  have hsame : ue'.kenb = ue.kenb := congrArg (fun ue => ue.kenb) hue
  have hkasme : ue'.kasme = ue.kasme := congrArg (fun ue => ue.kasme) hue
  exact ⟨ulCount, by rw [hsame, hkasme, hkenb]⟩

theorem MmeUe.selectAlgorithms_nasKeyed : (ue.selectAlgorithms cfg).NasKeyed := ⟨rfl, rfl⟩

/-- The keys that have been derived since KASME was stored are derived from it. -/
structure Mme.Keyed (m : Mme) : Prop where
  nas : m.log.HasSecurityModeCommand → m.ue.NasKeyed
  enb : m.log.HasKdfEnb → m.ue.EnbKeyed

/-- A move that says nothing about keys. -/
theorem Mme.Keyed.keep (hm : m.Keyed) (hnas : m.ue.NasKeyed → m'.ue.NasKeyed)
    (henb : m.ue.EnbKeyed → m'.ue.EnbKeyed)
    (hcommand : m'.log.HasSecurityModeCommand → m.log.HasSecurityModeCommand)
    (hkdf : m'.log.HasKdfEnb → m.log.HasKdfEnb) : m'.Keyed :=
  ⟨fun h => hnas (hm.nas (hcommand h)), fun h => henb (hm.enb (hkdf h))⟩

theorem Mme.Keyed.say {call : MmeCall} (hm : m.Keyed) (haia : call.aia? = none)
    (hcommand : call.securityModeCommand? = none)
    (hkdf : MmeLogItem.kdfEnb? ⟨m.handling, call⟩ = none) : (m.say call).Keyed :=
  hm.keep id id (MmeLog.hasSecurityModeCommand_cons haia hcommand).mp
    (MmeLog.hasKdfEnb_cons haia hkdf).mp

theorem Mme.Keyed.congr (hm : m.Keyed) (hue : ue.security = m.ue.security) :
    ({ m with ue := ue } : Mme).Keyed :=
  hm.keep (fun h => h.congr hue) (fun h => h.congr hue) id id

theorem MmeOp.keyed (hop : MmeOp m m') (hm : m.Keyed) : m'.Keyed := by
  cases hop with
  | keep hue => exact hm.congr hue.security
  | protect => exact hm.keep (fun h => ⟨h.knasInt, h.knasEnc⟩) id id id
  | air =>
    have hcleared : ({ m with
        ue := m.ue.clearSecurityContext
        airs := m.airs + 1
        pendingAirs := m.pendingAirs ++ [m.airs] } : Mme).Keyed :=
      hm.keep (fun h => ⟨h.knasInt, h.knasEnc⟩) id id id
    exact hcleared.say rfl rfl rfl
  | kdfEnb =>
    refine ⟨fun h => ?_, fun _ => ⟨_, rfl⟩⟩
    have hnas := hm.nas ((MmeLog.hasSecurityModeCommand_cons rfl rfl).mp h)
    exact ⟨hnas.knasInt, hnas.knasEnc⟩
  | @attachAccept s1apbuf ue _ _ _ hue =>
    have haccept : (m.say (.attachAccept m.ue.sm)).Keyed := hm.say rfl rfl rfl
    have hchanged : ({ m.say (.attachAccept m.ue.sm) with ue := ue } : Mme).Keyed := by
      rcases hue with hsame | havailable
      · exact haccept.congr hsame
      · have hnas : m.ue.NasKeyed → ue.NasKeyed := by
          intro h
          have hprotected : ({ m.ue with securityContextAvailable := true } : MmeUe).NasKeyed :=
            ⟨h.knasInt, h.knasEnc⟩
          exact hprotected.congr havailable
        have henb : m.ue.EnbKeyed → ue.EnbKeyed := by
          intro h
          have hprotected : ({ m.ue with securityContextAvailable := true } : MmeUe).EnbKeyed := h
          exact hprotected.congr havailable
        exact haccept.keep hnas henb id id
    exact hchanged.say rfl rfl rfl
  | emmToEsm =>
    have hqueued : ∀ queue, ({ m with queue := queue } : Mme).Keyed :=
      fun _ => hm.keep id id id id
    exact (hqueued _).say rfl rfl rfl
  | _ => exact hm.say rfl rfl rfl

theorem MmeMove.keyed (hmove : MmeMove cfg m m') (hm : m.Keyed) : m'.Keyed := by
  cases hmove with
  | op hop => exact hop.keyed hm
  | enbUes => exact hm.keep (fun h => h.congr rfl) (fun h => h.congr rfl) id id
  | queue | pendingAirs | handled => exact hm.keep id id id id
  | decodeAgain => exact hm.keep (fun h => ⟨h.knasInt, h.knasEnc⟩) id id id
  | @decode pdu ue' _ hdecodes =>
    obtain ⟨ulCount, failed, rfl⟩ := hdecodes.shape
    exact hm.keep (fun h => ⟨h.knasInt, h.knasEnc⟩) id
      (MmeLog.hasSecurityModeCommand_cons rfl rfl).mp (MmeLog.hasKdfEnb_cons rfl rfl).mp
  | message =>
    exact hm.keep id id (MmeLog.hasSecurityModeCommand_cons rfl rfl).mp
      (MmeLog.hasKdfEnb_cons rfl rfl).mp
  | aia =>
    refine ⟨fun h => ?_, fun h => ?_⟩
    · obtain ⟨item, hitem, -⟩ := h
      rw [Mme.log_stored, MmeLog.sinceAia_aia] at hitem
      exact absurd hitem List.not_mem_nil
    · obtain ⟨item, hitem, -⟩ := h
      rw [Mme.log_stored, MmeLog.sinceAia_aia] at hitem
      exact absurd hitem List.not_mem_nil
  | kdfNh =>
    exact hm.keep (fun h => ⟨h.knasInt, h.knasEnc⟩) id
      (MmeLog.hasSecurityModeCommand_cons rfl rfl).mp (MmeLog.hasKdfEnb_cons rfl rfl).mp
  | leave =>
    exact hm.keep (fun h => h.congr rfl) (fun h => h.congr rfl)
      (MmeLog.hasSecurityModeCommand_cons rfl rfl).mp (MmeLog.hasKdfEnb_cons rfl rfl).mp
  | enterSecurityMode =>
    refine ⟨fun _ => ?_, fun h => ?_⟩
    · have hkeyed : (m.ue.selectAlgorithms cfg).NasKeyed := MmeUe.selectAlgorithms_nasKeyed
      exact ⟨hkeyed.knasInt, hkeyed.knasEnc⟩
    · exact hm.enb ((MmeLog.hasKdfEnb_cons rfl rfl).mp ((MmeLog.hasKdfEnb_cons rfl rfl).mp h))
  | attachAgain =>
    refine hm.keep (fun h => ⟨h.knasInt, h.knasEnc⟩) id (fun h => ?_) fun h => ?_
    · have h := (MmeLog.hasSecurityModeCommand_cons rfl rfl).mp h
      exact (MmeLog.hasSecurityModeCommand_cons rfl rfl).mp h
    · have h := (MmeLog.hasKdfEnb_cons rfl rfl).mp h
      exact (MmeLog.hasKdfEnb_cons rfl rfl).mp h
  | _ => exact hm.say rfl rfl rfl

/-- The NAS keys and `KeNB` are derived from the KASME that is stored, as far as they have been
derived since it was stored. -/
theorem keys_of_reaches [NasDecoder] (hinitial : m.Initial)
    (hreaches : Lts.Reaches (Mme.Step cfg) m m') :
    (m'.log.HasSecurityModeCommand → m'.ue.NasKeyed) ∧ (m'.log.HasKdfEnb → m'.ue.EnbKeyed) := by
  have hkeyed : m.Keyed := by
    refine ⟨fun h => ?_, fun h => ?_⟩
    · rw [hinitial.log] at h
      obtain ⟨_, hitem, -⟩ := h
      exact absurd hitem List.not_mem_nil
    · rw [hinitial.log] at h
      obtain ⟨_, hitem, -⟩ := h
      exact absurd hitem List.not_mem_nil
  have hafter : m'.Keyed := hinitial.invariant (C := fun _ _ => True)
    (fun _ _ hm hmove _ => hmove.keyed hm) hkeyed hreaches
    (History.always_iff.mpr fun _ _ _ _ => trivial)
  exact ⟨hafter.nas, hafter.enb⟩

end

/-- After the Security Mode Complete all keys are derived from the KASME of the answer. -/
theorem keys_sampleSecurityMode :
    let ue := (@sampleRun OgsCrypt.reference NasDecoder.reference sampleSecurityMode).ue
    ue.SecurityContextIsValid ∧ @MmeUe.NasKeyed OgsCrypt.reference ue ∧
      @MmeUe.EnbKeyed OgsCrypt.reference ue := by
  have hkeys := @keys_of_reaches OgsCrypt.reference sampleConfig sampleMme _
    NasDecoder.reference sampleMme_initial
    (@sampleRun_reaches OgsCrypt.reference NasDecoder.reference sampleSecurityMode
      (by decide +kernel))
  exact ⟨by decide +kernel, hkeys.1 (by decide +kernel), hkeys.2 (by decide +kernel)⟩

/-- The last octet of `KeNB` under `OgsCrypt.reference`, whatever the COUNT is. -/
theorem mmeKdfEnb_reference (kasme : Octets32) (ulCount : UInt32) :
    (@mmeKdfEnb OgsCrypt.reference kasme ulCount).get 31 = kasme.get 31 := by
  have hlen : ([0x11] ++ (Octets.htonl ulCount).toList ++ [0x00, 0x04] : Bytes).length = 7 := by
    simp
  unfold mmeKdfEnb
  generalize ([0x11] ++ (Octets.htonl ulCount).toList ++ [0x00, 0x04] : Bytes) = data at hlen
  change ((Vector.range 32).map fun i =>
    ((kasme.toList ++ data).getD i 0 ^^^ data.getD i 0 : UInt8)).get 31 = _
  have hshort : data.getD 31 0 = 0 := by
    rw [List.getD_eq_default]
    omega
  simp only [Vector.get_eq_getElem, Vector.getElem_map, Vector.getElem_range]
  change (kasme.toList ++ data).getD 31 0 ^^^ data.getD 31 0 = _
  rw [hshort, List.getD_append _ _ _ _ (by simp)]
  simp

/-- When the Security Mode Command has been built the context is valid, and `KeNB` is not yet
derived. -/
theorem keys_command :
    let _ := OgsCrypt.reference
    let _ := NasDecoder.reference
    ¬∀ m m' : Mme, m.Initial → Lts.Reaches (Mme.Step sampleConfig) m m' →
      m'.ue.SecurityContextIsValid → m'.ue.NasKeyed ∧ m'.ue.EnbKeyed := by
  intro crypt decoder hclaim
  have hreaches := @sampleRun_reaches OgsCrypt.reference NasDecoder.reference sampleResponse
    (by decide +kernel)
  obtain ⟨-, ulCount, hkenb⟩ := hclaim sampleMme _ sampleMme_initial hreaches (by decide +kernel)
  have hlast := congrArg (fun octets : Octets32 => octets.get 31) hkenb
  rw [mmeKdfEnb_reference] at hlast
  exact absurd hlast (by decide +kernel)

end NextEpc

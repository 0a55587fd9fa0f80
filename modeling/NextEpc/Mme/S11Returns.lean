import NextEpc.Lib.Returning
import NextEpc.Mme.EmmOps
import NextEpc.Mme.S11Handler

/-!
# S11 messages that are handled

A handler asserts what it finds in the UE, in the messages that it builds, and in the information
elements. Here is exactly when nothing of this fails.
-/

namespace NextEpc
open Fallible

/-! ## Conditions -/

namespace S11Ue

/-- The algorithms are known, and not both null. -/
def Protects (ue : S11Ue) : Prop :=
  NasCipheringAlgorithm ue.selectedEncAlgorithm ∧
    (ue.selectedIntAlgorithm = 0 ∨ NasIntegrityAlgorithm ue.selectedIntAlgorithm) ∧
    (ue.selectedEncAlgorithm ≠ 0 ∨ ue.selectedIntAlgorithm ≠ 0)

/-- The options fit into their array. -/
def PcoFits [MmeCodec] (pgwPco : Option Bytes) : Prop :=
  ∀ pco, pgwPco = some pco → pco ≠ [] → pco.length % 256 ≤ MmeCodec.maxPcoLen

/-- There is a traffic flow template, whose length is not a multiple of 256. -/
def HasTft (tft : Option Bytes) : Prop := (tft.getD []).length % 256 ≠ 0

/-- What an Activate Default Bearer Context Request needs of a session with a PDN and a bearer. -/
def BuildsDefault [MmeCodec] (ue : S11Ue) (sess : S11Sess) (pdn : Nat) (bearer : S11Bearer) :
    Prop :=
  sess.pdn = some pdn ∧ sess.bearerList = [bearer] ∧
    MmeCodec.paaPdnType (ue.pdns pdn).paa ∈ [1, 2, 3] ∧ PcoFits sess.pgwPco ∧
    (ue.sm = .registered → ue.Protects)

/-- Another record of the UE, in which a message was counted. -/
def Counted (ue ue' : S11Ue) : Prop :=
  ∃ dlCount available, ue' = { ue with toMmeUe := { ue.toMmeUe with
    dlCount := dlCount, securityContextAvailable := available } }

end S11Ue

namespace S11Mme
section
variable [MmeCodec] (s : S11Mme)

/-- A command for the release of a connection that is there and has an identity can be encoded. -/
def Releases (enbUe : EnbUeId) (cause : S1apCause) : Prop :=
  s.enbUes.live enbUe = true ∧ (s.ids enbUe).mmeUeS1apId ≠ 0 ∧
    MmeCodec.s1apEncodes (.ueContextReleaseCommand (s.ids enbUe) cause) = true

/-- A message for a UE with a connection that is there can be encoded. -/
def SendsTo (enbUe : Option EnbUeId) (pdu : S1apIds → S11Pdu) : Prop :=
  ∃ e, enbUe = some e ∧ s.enbUes.live e = true ∧ MmeCodec.s1apEncodes (pdu (s.ids e)) = true

/-- The connection that a UE may have is there, and a NAS message for it can be encoded. -/
def SendsIfConnected (enbUe : Option EnbUeId) : Prop :=
  ∀ e, enbUe = some e →
    s.enbUes.live e = true ∧ MmeCodec.s1apEncodes (.downlinkNasTransport (s.ids e)) = true

/-- The item of a bearer, with bit rates that are raised -/
def eRabOf (bearer : S11Bearer) : S11ERab := ⟨bearer.ebi, bearer.qos.raised, bearer.sgwS1u⟩

/-- A bearer that has an address can be set up. -/
def SetsUp (enbUe : Option EnbUeId) (bearer : S11Bearer) : Prop :=
  bearer.sgwS1u.ip ≠ [] ∧ s.SendsTo enbUe fun ids => .eRabSetupRequest ids (eRabOf bearer)

/-- `nas_send_attach_accept` can be done. A message that is kept is not built again. -/
def SendsAttachAccept (ue : S11Ue) : Prop :=
  ∃ sess bearer, ue.sessList = [sess] ∧ sess.bearerList = [bearer] ∧
    match ue.t3450.pkbuf with
    | some _ => ∃ e, ue.enbUe = some e ∧ s.enbUes.live e = true
    | none => ∃ pdn, ue.BuildsDefault sess pdn bearer ∧
      ((s.servedTai ue.tai).isSome = true ∧ ue.Protects) ∧ bearer.sgwS1u.ip ≠ [] ∧
      s.SendsTo ue.enbUe fun ids => .initialContextSetupRequest ids ue.ambr
        [eRabOf { bearer with qos := (ue.pdns pdn).qos }] ue.eea ue.eia ue.kenb
        (s.registeredLai ue) ue.ueRadioCapability

/-- A Detach Accept can be sent and the connection be released. -/
def SendsDetachAccept (ue : S11Ue) : Prop :=
  (ue.nasEps.switchOff = false → ue.Protects ∧ s.SendsTo ue.enbUe .downlinkNasTransport) ∧
    ∃ enbUe, ue.enbUe = some enbUe ∧ s.Releases enbUe causeNasDetach

/-- Where the session is the last one, the connection can be released. -/
def ReleasesLast (ue : S11Ue) : Prop :=
  ue.sessList.length = 1 → ∀ enbUe, ue.enbUe = some enbUe →
    s.Releases enbUe causeNasNormalRelease

/-- A session after a Create Session Response -/
def createdSess (sess : S11Sess) (bearer : S11Bearer) (pco : Option Bytes) (sgwS1u : GtpTunnel) :
    S11Sess :=
  { sess with pgwPco := pco <|> sess.pgwPco }.putBearer { bearer with sgwS1u := sgwS1u }

/-- A UE after a Create Session Response -/
def createdUe (ue : S11Ue) (sess : S11Sess) (pdn : Nat) (sgwS11Teid : UInt32) (paa : Bytes) :
    S11Ue :=
  { ue with
    toMmeUe := { ue.toMmeUe with sgwS11Teid := sgwS11Teid }
    pdns := Function.update ue.pdns pdn { ue.pdns pdn with
      paa := paa ++ (ue.pdns pdn).paa.drop paa.length } }.putSess sess

end
end S11Mme

/-! ## Protected messages -/

section
variable [OgsCrypt] {algorithm : UInt8} {knasInt knasEnc : Octets16} {count : UInt32}
  {bearer direction : UInt8} {pkbuf : Pkbuf} {mac : Octets4} {ue : MmeUe} {message : NasMessage}

theorem returns_nasEncrypt (hdata : pkbuf.data ≠ []) :
    Returns (nasEncrypt algorithm knasEnc count bearer direction pkbuf) ↔
      NasCipheringAlgorithm algorithm := by
  constructor
  · rintro ⟨pkbuf', h⟩
    obtain ⟨_, -, h⟩ := bind_eq_ok.mp h
    obtain ⟨stream, hstream, -⟩ := bind_eq_ok.mp h
    unfold nasKeyStream at hstream
    split at hstream
    · exact .inr (.inl rfl)
    · exact .inr (.inr (.inl rfl))
    · exact .inr (.inr (.inr rfl))
    · exact .inl rfl
    · cases hstream
  · exact fun h => ⟨_, nasEncrypt_eq h hdata⟩

/-- The code is computed if the algorithm is known, and the headroom is as long as before. -/
theorem nasMacCalculate_ok (algorithm : UInt8) (knasInt : Octets16) (count : UInt32)
    (bearer direction : UInt8) (mac : Octets4) (hdata : pkbuf.data ≠ [])
    (hroom : 8 ≤ pkbuf.headroom.length) :
    (Returns (nasMacCalculate algorithm knasInt count bearer direction pkbuf mac) ↔
      algorithm = 0 ∨ NasIntegrityAlgorithm algorithm) ∧
    ∀ r, nasMacCalculate algorithm knasInt count bearer direction pkbuf mac = .ok r →
      r.1.headroom.length = pkbuf.headroom.length := by
  by_cases hzero : algorithm = 0
  · subst hzero
    have hok : nasMacCalculate 0 knasInt count bearer direction pkbuf mac = .ok (pkbuf, mac) := by
      rw [nasMacCalculate, assert_of hdata, ok_bind]
    refine ⟨iff_of_true ⟨_, hok⟩ (.inl rfl), fun r hr => ?_⟩
    cases hok.symm.trans hr
    rfl
  by_cases halgorithm : NasIntegrityAlgorithm algorithm
  · obtain ⟨headroom, hlength, hok⟩ :=
      nasMacCalculate_eq halgorithm knasInt count bearer direction mac hdata hroom
    refine ⟨iff_of_true ⟨_, hok⟩ (.inr halgorithm), fun r hr => ?_⟩
    cases hok.symm.trans hr
    exact hlength
  · have hnot : ∀ r,
        nasMacCalculate algorithm knasInt count bearer direction pkbuf mac ≠ .ok r := by
      rintro ⟨pkbuf', mac'⟩ hr
      exact halgorithm (nasIntegrityAlgorithm_of_ok hr hzero)
    refine ⟨iff_of_false ?_ fun h => h.elim hzero halgorithm, fun r hr => absurd hr (hnot r)⟩
    rintro ⟨r, hr⟩
    exact hnot r hr

/-- There is room for the code, the sequence number and the header of every message. -/
theorem returns_nasSecurityProtect (hplain : message.plain ≠ []) {type : NasSecurityHeaderType} :
    Returns (nasSecurityProtect ue type message) ↔
      (type.ciphered = true → NasCipheringAlgorithm ue.selectedEncAlgorithm) ∧
      (type.integrityProtected = true →
        ue.selectedIntAlgorithm = 0 ∨ NasIntegrityAlgorithm ue.selectedIntAlgorithm) := by
  have halloc : (Pkbuf.alloc nasHeadroom message.plain).data ≠ [] := hplain
  rw [nasSecurityProtect_eq]
  have hfirst : Returns (if type.ciphered then
      nasEncrypt ue.selectedEncAlgorithm ue.knasEnc ue.dlCount nasSecurityBearer
        nasSecurityDownlinkDirection (Pkbuf.alloc nasHeadroom message.plain)
      else .ok (Pkbuf.alloc nasHeadroom message.plain)) ↔
      (type.ciphered = true → NasCipheringAlgorithm ue.selectedEncAlgorithm) := by
    rw [returns_ite, returns_nasEncrypt halloc]
    simp
  rw [returns_bind_iff (p := type.integrityProtected = true →
    ue.selectedIntAlgorithm = 0 ∨ NasIntegrityAlgorithm ue.selectedIntAlgorithm), hfirst]
  intro encrypted hencrypted
  have hroom : encrypted.headroom = List.replicate 16 0 := by
    split at hencrypted
    · rw [nasEncrypt_ok hencrypted]
      rfl
    · cases hencrypted
      rfl
  obtain ⟨headroom, data⟩ := encrypted
  obtain rfl : headroom = List.replicate 16 0 := hroom
  have hpush : Pkbuf.push ⟨List.replicate 16 0, data⟩ 1 = some ⟨List.replicate 15 0, 0 :: data⟩ :=
    rfl
  rw [hpush, assertSome_some, ok_bind]
  set pushed := Pkbuf.write ⟨List.replicate 15 0, 0 :: data⟩ [UInt8.ofNat ue.dlCount.toNat]
    with hpushed
  have hdata : pushed.data ≠ [] := by simp [hpushed, Pkbuf.write]
  have hfifteen : pushed.headroom.length = 15 := rfl
  have hpush_last : ∀ checked : Pkbuf × Octets4, checked.1.headroom.length = 15 →
      ∃ sent, checked.1.push 5 = some sent := by
    intro checked hchecked
    rw [Pkbuf.push, if_pos (by omega)]
    exact ⟨_, rfl⟩
  cases hprotected : type.integrityProtected with
  | false =>
    obtain ⟨sent, hsent⟩ := hpush_last (pushed, Vector.replicate 4 0) hfifteen
    simp [hsent]
  | true =>
    obtain ⟨hreturns, hkept⟩ := nasMacCalculate_ok ue.selectedIntAlgorithm ue.knasInt ue.dlCount
      nasSecurityBearer nasSecurityDownlinkDirection (Vector.replicate 4 0) hdata (by omega)
    simp only [if_true, forall_const]
    rw [returns_bind_iff, hreturns, and_true]
    intro checked hchecked
    obtain ⟨sent, hsent⟩ := hpush_last checked (hkept checked hchecked)
    simp [hsent]

end

namespace S11Ue
variable {ue ue' : S11Ue}

theorem Counted.refl (ue : S11Ue) : ue.Counted ue := ⟨_, _, rfl⟩

section
variable [OgsCrypt] [MmeCodec]

theorem counted_nasSecurityEncode {nas : S11Nas} {r : S11Ue × Bytes}
    (h : ue.nasSecurityEncode nas = .ok r) : ue.Counted r.1 := by
  obtain ⟨⟨m, sent, rv⟩, hr, h⟩ := bind_eq_ok.mp h
  obtain ⟨_, -, h⟩ := bind_eq_ok.mp h
  obtain ⟨pkbuf, hpkbuf, h⟩ := bind_eq_ok.mp h
  cases h
  obtain rfl : sent = some pkbuf := assertSome_eq_ok.mp hpkbuf
  obtain ⟨dlCount, rfl, -⟩ := nasSecurityEncode_some rfl hr
  exact ⟨_, _, rfl⟩

theorem returns_nasSecurityEncode {nas : S11Nas} :
    Returns (ue.nasSecurityEncode nas) ↔ ue.Protects := by
  have htype : nasProtectedHeaderType nas.toNasMessage.securityHeaderType =
      some { integrityProtected := true, ciphered := true } := rfl
  have hencoding : ue.toMmeUe.encoding nas.toNasMessage = ue.toMmeUe := rfl
  unfold nasSecurityEncode Protects
  rw [nasSecurityEncode_eq htype, hencoding]
  simp only [NasSecurityHeaderType.select, Bool.true_and, bne_iff_ne]
  by_cases hnull : ue.selectedEncAlgorithm ≠ 0 ∨ ue.selectedIntAlgorithm ≠ 0
  · rw [if_pos hnull, and_iff_left hnull, returns_bind_iff, returns_bind_iff,
      returns_nasSecurityProtect (MmeCodec.nasPlainEncode_ne_nil nas), and_true, and_true]
    · simp only [bne_iff_ne]
      refine and_congr ⟨fun h => ?_, fun h _ => h⟩ ⟨fun h => ?_, fun h _ => h⟩
      · by_cases hzero : ue.selectedEncAlgorithm = 0
        · exact .inl hzero
        · exact h hzero
      · by_cases hzero : ue.selectedIntAlgorithm = 0
        · exact .inl hzero
        · exact h hzero
    · exact fun r _ => iff_of_true ⟨_, rfl⟩ trivial
    · intro a ha
      obtain ⟨r, -, hr⟩ := bind_eq_ok.mp ha
      cases hr
      simp
  · rw [if_neg hnull]
    simp [hnull]

theorem counted_nasEncode {nas : S11Nas} {r : S11Ue × Bytes} (h : ue.nasEncode nas = .ok r) :
    ue.Counted r.1 := by
  unfold nasEncode at h
  split at h
  · exact counted_nasSecurityEncode h
  · cases h
    exact Counted.refl ue

theorem returns_nasEncode {nas : S11Nas} :
    Returns (ue.nasEncode nas) ↔ (ue.sm = .registered → ue.Protects) := by
  rw [nasEncode, returns_ite, returns_nasSecurityEncode]
  simp

end

section
variable [MmeCodec]

theorem returns_nasPco {pgwPco : Option Bytes} : Returns (nasPco pgwPco) ↔ PcoFits pgwPco := by
  unfold nasPco PcoFits
  cases pgwPco with
  | none => simp
  | some pco =>
    by_cases hnil : pco = []
    · simp [hnil]
    · by_cases hle : pco.length % 256 ≤ MmeCodec.maxPcoLen
      · simp [hnil, hle]
      · simp [hnil, hle]

omit [MmeCodec] in
theorem returns_nasTft {tft : Option Bytes} : Returns (nasTft tft) ↔ HasTft tft := by
  unfold nasTft HasTft
  rw [returns_assert_bind]
  simp

end

section
variable [OgsCrypt] [MmeCodec] {sess : S11Sess}

/-- The session with the QoS of its PDN at its bearer -/
def defaultSess (ue : S11Ue) (sess : S11Sess) (pdn : Nat) (bearer : S11Bearer) : S11Sess :=
  { sess with bearerList := [{ bearer with qos := (ue.pdns pdn).qos }] }

theorem esmBuild_ok {pdn : Nat} {bearer : S11Bearer} (hpdn : sess.pdn = some pdn)
    (hbearer : sess.bearerList = [bearer]) {r : S11Ue × S11Sess × S11Bearer × Bytes}
    (h : ue.esmBuildActivateDefaultBearerContextRequest sess = .ok r) :
    (ue.putSess (ue.defaultSess sess pdn bearer)).Counted r.1 ∧
      r.2.1 = ue.defaultSess sess pdn bearer ∧
      r.2.2.1 = { bearer with qos := (ue.pdns pdn).qos } := by
  unfold esmBuildActivateDefaultBearerContextRequest at h
  obtain ⟨pdn', hpdn', h⟩ := bind_eq_ok.mp h
  obtain rfl : pdn = pdn' := Option.some.inj (hpdn.symm.trans (assertSome_eq_ok.mp hpdn'))
  simp only [hbearer] at h
  obtain ⟨_, -, h⟩ := bind_eq_ok.mp h
  obtain ⟨pco, -, h⟩ := bind_eq_ok.mp h
  obtain ⟨encoded, hencode, h⟩ := bind_eq_ok.mp h
  cases h
  exact ⟨counted_nasEncode hencode, rfl, rfl⟩

theorem returns_esmBuild : Returns (ue.esmBuildActivateDefaultBearerContextRequest sess) ↔
    ∃ pdn bearer, ue.BuildsDefault sess pdn bearer := by
  unfold esmBuildActivateDefaultBearerContextRequest BuildsDefault
  rw [returns_assertSome_bind]
  refine exists_congr fun pdn => ?_
  split
  · rename_i bearer hbearer
    simp only [assertPdnType, returns_assert_bind]
    rw [returns_bind_iff (p := ue.sm = .registered → ue.Protects), returns_nasPco]
    · simp [hbearer]
    · intro pco _
      rw [returns_bind_iff (p := True), returns_nasEncode, and_true]
      · exact Iff.rfl
      · exact fun r _ => iff_of_true ⟨_, rfl⟩ trivial
  · rename_i hbearer
    refine iff_of_false (fun h => not_returns_error _ h.2) ?_
    rintro ⟨bearer, -, hlist, -⟩
    exact hbearer bearer hlist

end
end S11Ue

/-! ## Messages to the eNB -/

namespace S11Mme
variable [MmeCodec] {s : S11Mme} {ue : S11Ue} {sess : S11Sess} {bearer : S11Bearer}
  {mmeUe : MmeUeId} {enbUe : EnbUeId}

omit [MmeCodec] in
theorem useEnbUe_eq_ok {u : Unit} :
    s.useEnbUe enbUe = .ok u ↔ s.enbUes.live enbUe = true := by
  unfold useEnbUe
  split
  · simp [*]
  · simp [*]

omit [MmeCodec] in
@[simp] theorem returns_useEnbUe_bind {β : Type} {f : Unit → MmeM β} :
    Returns (s.useEnbUe enbUe >>= f) ↔ s.enbUes.live enbUe = true ∧ Returns (f ()) := by
  unfold useEnbUe
  split
  · simp [*]
  · simp [*]

omit [MmeCodec] in
@[simp] theorem returns_useMmeUe_bind {β : Type} {f : Unit → MmeM β} :
    Returns (s.useMmeUe mmeUe >>= f) ↔ s.mmeUes.live mmeUe = true ∧ Returns (f ()) := by
  unfold useMmeUe
  split
  · simp [*]
  · simp [*]

theorem returns_sendToEnbUe {pdu : S11Pdu} {nasPdu : Option Bytes} :
    Returns (s.sendToEnbUe enbUe pdu nasPdu) ↔
      s.enbUes.live enbUe = true ∧ MmeCodec.s1apEncodes pdu = true := by
  rw [sendToEnbUe, returns_useEnbUe_bind, returns_assert_bind]
  simp

theorem returns_releaseCommand {cause : S1apCause} {action : UeCtxRelAction} {delay : Bool}
    (haction : action ≠ .invalidAction) :
    Returns (s.clearAndRelease enbUe cause action delay) ↔ s.Releases enbUe cause := by
  set cleared := s.modifyEnbUe enbUe fun e => { e with tUeContextRelease := .clear } with hs
  have hcleared : (cleared.enbUes.mem enbUe).tUeContextRelease.pkbuf = none := by
    simp [hs, modifyEnbUe, MmeTimer.clear]
  have hids : cleared.ids enbUe = s.ids enbUe := by
    simp [hs, modifyEnbUe, ids]
  have hlive : cleared.enbUes.live enbUe = s.enbUes.live enbUe := rfl
  have hbuild : Returns (cleared.s1apBuildUeContextReleaseCommand enbUe cause) ↔
      (s.ids enbUe).mmeUeS1apId ≠ 0 ∧
        MmeCodec.s1apEncodes (.ueContextReleaseCommand (s.ids enbUe) cause) = true := by
    rw [s1apBuildUeContextReleaseCommand, returns_assert_bind, returns_assert_bind, hids]
    simp
  unfold clearAndRelease clearEnbUeTimer
  rw [bind_assoc, returns_useEnbUe_bind, ok_bind, ← hs, s1apSendUeContextReleaseCommand,
    returns_useEnbUe_bind, hlive, and_self_left, Releases]
  refine and_congr_right fun _ => ?_
  simp only [hcleared]
  split
  · rw [returns_assert_bind, returns_bind_iff (p := True), hbuild]
    · simp [haction]
    · exact fun _ _ => iff_of_true ⟨_, rfl⟩ trivial
  · rw [returns_assert_bind, returns_bind_iff (p := True), hbuild]
    · simp [haction]
    · exact fun _ _ => iff_of_true ⟨_, rfl⟩ trivial

theorem returns_downlinkNasTransport {enbUe : Option EnbUeId} {pkbuf : Bytes} :
    Returns (s.nasSendToDownlinkNasTransport enbUe pkbuf) ↔ s.SendsIfConnected enbUe := by
  unfold nasSendToDownlinkNasTransport SendsIfConnected
  cases enbUe with
  | none => simp
  | some e => simp [returns_sendToEnbUe]

theorem enbUes_of_downlinkNasTransport {enbUe : Option EnbUeId} {pkbuf : Bytes} {s' : S11Mme}
    (h : s.nasSendToDownlinkNasTransport enbUe pkbuf = .ok s') : s'.enbUes = s.enbUes := by
  unfold nasSendToDownlinkNasTransport at h
  split at h
  · obtain ⟨_, -, h⟩ := bind_eq_ok.mp h
    obtain ⟨_, -, h⟩ := bind_eq_ok.mp h
    cases h
    rfl
  · cases h
    rfl

/-- Whether a connection can be released is a matter of the connections. -/
theorem releases_congr {s' : S11Mme} (h : s'.enbUes = s.enbUes) {cause : S1apCause} :
    s'.Releases enbUe cause ↔ s.Releases enbUe cause := by
  rw [Releases, Releases, ids, ids, h]

theorem returns_pathSwitchAck : Returns (s.s1apSendPathSwitchAck mmeUe) ↔
    s.SendsTo (s.mmeUes.mem mmeUe).enbUe fun ids => .pathSwitchRequestAcknowledge ids
      (s.mmeUes.mem mmeUe).nhcc (s.mmeUes.mem mmeUe).nh := by
  unfold s1apSendPathSwitchAck SendsTo
  rw [returns_assertSome_bind]
  simp only [returns_sendToEnbUe]

omit [MmeCodec] in
theorem returns_s1apERab_bind {β : Type} {f : S11ERab → MmeM β} :
    Returns (s1apERab bearer >>= f) ↔
      bearer.sgwS1u.ip ≠ [] ∧ Returns (f ⟨bearer.ebi, bearer.qos, bearer.sgwS1u⟩) := by
  unfold s1apERab
  by_cases hip : bearer.sgwS1u.ip = []
  · simp [hip, Fallible.assert]
  · simp [hip, Fallible.assert]

theorem returns_sendERabSetupRequest {esmbuf : Bytes} :
    Returns (s.sendERabSetupRequest mmeUe ue sess bearer esmbuf) ↔ s.SetsUp ue.enbUe bearer := by
  unfold sendERabSetupRequest SetsUp SendsTo
  rw [returns_assertSome_bind]
  simp only [returns_s1apERab_bind, returns_sendToEnbUe]
  constructor
  · rintro ⟨e, henbUe, hip, hsends⟩
    exact ⟨hip, e, henbUe, hsends⟩
  · rintro ⟨hip, e, henbUe, hsends⟩
    exact ⟨e, henbUe, hip, hsends⟩

theorem returns_handoverCommand {sourceUe : EnbUeId} :
    Returns (s.s1apSendHandoverCommand sourceUe) ↔ s.enbUes.live sourceUe = true ∧
      ∃ mmeUe, (s.enbUes.mem sourceUe).mmeUe = some mmeUe ∧ s.mmeUes.live mmeUe = true ∧
        MmeCodec.s1apEncodes (.handoverCommand (s.ids sourceUe)
          (s.enbUes.mem sourceUe).handoverType (forwardedERabs (s.mmeUes.mem mmeUe))
          (s.mmeUes.mem mmeUe).container) = true := by
  unfold s1apSendHandoverCommand
  rw [returns_useEnbUe_bind, returns_assertSome_bind]
  simp only [returns_useMmeUe_bind, returns_sendToEnbUe]
  refine and_congr_right fun hlive => ?_
  simp only [hlive, true_and]
  rfl

omit [MmeCodec] in
/-- The only session is written back. -/
theorem sessList_putSess (hsess : ue.sessList = [sess]) {sess' : S11Sess}
    (hid : sess.id = sess'.id) : (ue.putSess sess').sessList = [sess'] := by
  rw [S11Ue.putSess, hsess]
  simp [S1MmeUe.updateFirst, hid]

section
variable [OgsCrypt]

theorem returns_activateDefault :
    Returns (s.nasSendActivateDefaultBearerContextRequest mmeUe ue sess) ↔
      ∃ pdn bearer, ue.BuildsDefault sess pdn bearer ∧
        s.SetsUp ue.enbUe { bearer with qos := (ue.pdns pdn).qos } := by
  have hrest {pdn : Nat} {bearer : S11Bearer} (hbuilds : ue.BuildsDefault sess pdn bearer)
      {r : S11Ue × S11Sess × S11Bearer × Bytes}
      (hr : ue.esmBuildActivateDefaultBearerContextRequest sess = .ok r) :
      Returns (s.sendERabSetupRequest mmeUe r.1 r.2.1 r.2.2.1 r.2.2.2) ↔
        s.SetsUp ue.enbUe { bearer with qos := (ue.pdns pdn).qos } := by
    obtain ⟨⟨dlCount, available, hcounted⟩, -, hbearer⟩ :=
      S11Ue.esmBuild_ok hbuilds.1 hbuilds.2.1 hr
    rw [returns_sendERabSetupRequest, hbearer, hcounted]
    rfl
  unfold nasSendActivateDefaultBearerContextRequest
  rw [returns_bind]
  constructor
  · rintro ⟨r, hr, h⟩
    obtain ⟨pdn, bearer, hbuilds⟩ := S11Ue.returns_esmBuild.mp ⟨r, hr⟩
    exact ⟨pdn, bearer, hbuilds, (hrest hbuilds hr).mp h⟩
  · rintro ⟨pdn, bearer, hbuilds, h⟩
    obtain ⟨r, hr⟩ := S11Ue.returns_esmBuild.mpr ⟨pdn, bearer, hbuilds⟩
    exact ⟨r, hr, (hrest hbuilds hr).mpr h⟩

theorem returns_activateDedicated :
    Returns (s.nasSendActivateDedicatedBearerContextRequest mmeUe ue sess bearer) ↔
      sess.bearerList ≠ [] ∧ S11Ue.HasTft bearer.tft ∧ ue.Protects ∧
        s.SetsUp ue.enbUe bearer := by
  unfold nasSendActivateDedicatedBearerContextRequest
  rw [returns_assertSome_bind]
  have hrest (linkedBearer : S11Bearer) : Returns (S11Ue.nasTft bearer.tft >>= fun tft =>
      ue.nasSecurityEncode (.activateDedicatedEpsBearerContextRequest bearer.ebi linkedBearer.ebi
        bearer.qos tft) >>= fun r => s.sendERabSetupRequest mmeUe r.1 sess bearer r.2) ↔
      S11Ue.HasTft bearer.tft ∧ ue.Protects ∧ s.SetsUp ue.enbUe bearer := by
    rw [returns_bind_iff, S11Ue.returns_nasTft]
    intro tft _
    rw [returns_bind_iff, S11Ue.returns_nasSecurityEncode]
    intro r hr
    obtain ⟨dlCount, available, hcounted⟩ := S11Ue.counted_nasSecurityEncode hr
    rw [returns_sendERabSetupRequest, hcounted]
  constructor
  · rintro ⟨linkedBearer, hlinked, h⟩
    refine ⟨fun hnil => ?_, (hrest linkedBearer).mp h⟩
    rw [S11Sess.defaultBearer, hnil] at hlinked
    cases hlinked
  · rintro ⟨hne, h⟩
    obtain ⟨linkedBearer, rest, hlist⟩ := List.exists_cons_of_ne_nil hne
    exact ⟨linkedBearer, by rw [S11Sess.defaultBearer, hlist]; rfl, (hrest linkedBearer).mpr h⟩

theorem returns_deactivateBearer :
    Returns (s.nasSendDeactivateBearerContextRequest mmeUe ue sess bearer) ↔
      ue.Protects ∧ s.SendsTo ue.enbUe fun ids =>
        .eRabReleaseCommand ids ue.ambr bearer.ebi causeNasNormalRelease := by
  unfold nasSendDeactivateBearerContextRequest
  rw [returns_bind_iff, S11Ue.returns_nasSecurityEncode]
  intro r hr
  rw [returns_assertSome_bind]
  simp only [returns_sendToEnbUe]
  rfl

theorem returns_modifyBearer {qosPresence tftPresence : Bool} :
    Returns (s.nasSendModifyBearerContextRequest mmeUe ue sess bearer qosPresence tftPresence) ↔
      (tftPresence = true → S11Ue.HasTft bearer.tft) ∧ ue.Protects ∧
        if qosPresence then s.SendsTo ue.enbUe fun ids =>
          .eRabModifyRequest ids bearer.ebi bearer.qos.raised
        else s.SendsIfConnected ue.enbUe := by
  have hrest (nas : S11Nas) : Returns (ue.nasSecurityEncode nas >>= fun r =>
      if qosPresence then do
        let enbUe ← assertSome .nasPath ue.enbUe
        let bearer := { bearer with qos := bearer.qos.raised }
        (s.putMmeUe mmeUe (r.1.putBearer sess bearer)).sendToEnbUe enbUe
          (.eRabModifyRequest (s.ids enbUe) bearer.ebi bearer.qos) (some r.2)
      else (s.putMmeUe mmeUe r.1).nasSendToDownlinkNasTransport ue.enbUe r.2) ↔ ue.Protects ∧
        if qosPresence then s.SendsTo ue.enbUe fun ids =>
          .eRabModifyRequest ids bearer.ebi bearer.qos.raised
        else s.SendsIfConnected ue.enbUe := by
    rw [returns_bind_iff, S11Ue.returns_nasSecurityEncode]
    intro r hr
    cases qosPresence with
    | true =>
      simp only [if_true]
      rw [returns_assertSome_bind]
      simp only [returns_sendToEnbUe]
      rfl
    | false =>
      simp only [Bool.false_eq_true, if_false]
      rw [returns_downlinkNasTransport]
      rfl
  unfold nasSendModifyBearerContextRequest
  cases tftPresence with
  | true =>
    refine (returns_bind_iff fun tft _ => hrest (.modifyEpsBearerContextRequest bearer.ebi sess.pti
      (if qosPresence then some bearer.qos else none) (some tft))).trans ?_
    rw [S11Ue.returns_nasTft]
    simp
  | false =>
    refine (hrest (.modifyEpsBearerContextRequest bearer.ebi sess.pti
      (if qosPresence then some bearer.qos else none) none)).trans ?_
    simp

/-! ## Attach Accept and Detach Accept -/

theorem emmBuildAttachAccept_ok {esmbuf : Bytes} :
    (Returns (s.emmBuildAttachAccept ue esmbuf) ↔
      (s.servedTai ue.tai).isSome = true ∧ ue.Protects) ∧
    ∀ r, s.emmBuildAttachAccept ue esmbuf = .ok r → { ue with guti := none }.Counted r.1 := by
  unfold emmBuildAttachAccept
  constructor
  · rw [returns_assertSome_bind, Option.isSome_iff_exists]
    simp only [S11Ue.returns_nasSecurityEncode]
    constructor
    · rintro ⟨servedTai, hserved, hprotects⟩
      exact ⟨⟨servedTai, hserved⟩, hprotects⟩
    · rintro ⟨⟨servedTai, hserved⟩, hprotects⟩
      exact ⟨servedTai, hserved, hprotects⟩
  · intro r hr
    obtain ⟨servedTai, -, hr⟩ := bind_eq_ok.mp hr
    exact S11Ue.counted_nasSecurityEncode hr

omit [OgsCrypt] in
theorem returns_initialContextSetup (hsess : ue.sessList = [sess])
    (hbearer : sess.bearerList = [bearer]) :
    Returns (s.s1apBuildInitialContextSetupRequest ue enbUe) ↔ s.enbUes.live enbUe = true ∧
      bearer.sgwS1u.ip ≠ [] ∧ MmeCodec.s1apEncodes (.initialContextSetupRequest (s.ids enbUe)
        ue.ambr [eRabOf bearer] ue.eea ue.eia ue.kenb (s.registeredLai ue)
        ue.ueRadioCapability) = true := by
  have hlist : ((ue.updateBearers fun bearer =>
      { bearer with qos := bearer.qos.raised }).sessList.flatMap S11Sess.bearerList) =
        [{ bearer with qos := bearer.qos.raised }] := by
    simp [S11Ue.updateBearers, hsess, hbearer]
  unfold s1apBuildInitialContextSetupRequest
  rw [returns_useEnbUe_bind]
  simp only [hlist, List.mapM_cons, List.mapM_nil, bind_assoc]
  rw [returns_s1apERab_bind]
  simp only [pure_eq_ok, ok_bind]
  rw [returns_assert_bind]
  simp only [returns_ok, and_true]
  rfl

/-- The Attach Accept of a UE with one session that has one bearer, and no message that is kept -/
theorem returns_attachAccept_none {pdn : Nat} (hsess : ue.sessList = [sess])
    (hbuilds : ue.BuildsDefault sess pdn bearer) :
    Returns (ue.esmBuildActivateDefaultBearerContextRequest sess >>= fun r =>
      s.emmBuildAttachAccept r.1 r.2.2.2 >>= fun r =>
      assertSome .nasPath r.1.enbUe >>= fun enbUe =>
      s.s1apBuildInitialContextSetupRequest r.1 enbUe >>= fun built =>
      (.ok ((s.putMmeUe mmeUe { built.1 with toMmeUe := { built.1.toMmeUe with
        t3450 := { built.1.t3450 with pkbuf := some built.1.kenb } } }).send
          (.toEnbUe enbUe built.2 (some r.2))) : MmeM S11Mme)) ↔
      ((s.servedTai ue.tai).isSome = true ∧ ue.Protects) ∧ bearer.sgwS1u.ip ≠ [] ∧
      s.SendsTo ue.enbUe fun ids => .initialContextSetupRequest ids ue.ambr
        [eRabOf { bearer with qos := (ue.pdns pdn).qos }] ue.eea ue.eia ue.kenb
        (s.registeredLai ue) ue.ueRadioCapability := by
  rw [returns_bind_iff, S11Ue.returns_esmBuild, and_iff_right ⟨pdn, bearer, hbuilds⟩]
  intro r hr
  obtain ⟨⟨dlCount, available, hcounted⟩, -, -⟩ := S11Ue.esmBuild_ok hbuilds.1 hbuilds.2.1 hr
  rw [hcounted, returns_bind_iff, emmBuildAttachAccept_ok.1]
  · exact Iff.rfl
  intro accept haccept
  obtain ⟨dlCount', available', hcounted'⟩ := emmBuildAttachAccept_ok.2 accept haccept
  have hlist : accept.1.sessList = [ue.defaultSess sess pdn bearer] := by
    rw [hcounted']
    exact sessList_putSess hsess rfl
  have henbUe : accept.1.enbUe = ue.enbUe := by
    rw [hcounted']
    rfl
  rw [returns_assertSome_bind, henbUe, SendsTo]
  have hrest (enbUe : EnbUeId) : Returns (s.s1apBuildInitialContextSetupRequest accept.1 enbUe >>=
      fun built => (.ok ((s.putMmeUe mmeUe { built.1 with toMmeUe := { built.1.toMmeUe with
        t3450 := { built.1.t3450 with pkbuf := some built.1.kenb } } }).send
          (.toEnbUe enbUe built.2 (some accept.2))) : MmeM S11Mme)) ↔
      s.enbUes.live enbUe = true ∧ bearer.sgwS1u.ip ≠ [] ∧
        MmeCodec.s1apEncodes (.initialContextSetupRequest (s.ids enbUe) ue.ambr
          [eRabOf { bearer with qos := (ue.pdns pdn).qos }] ue.eea ue.eia ue.kenb
          (s.registeredLai ue) ue.ueRadioCapability) = true := by
    rw [returns_bind_iff (p := True), and_true, returns_initialContextSetup hlist rfl, hcounted']
    · exact Iff.rfl
    · exact fun _ _ => iff_of_true ⟨_, rfl⟩ trivial
  constructor
  · rintro ⟨enbUe, hsome, h⟩
    obtain ⟨hlive, hip, hencodes⟩ := (hrest enbUe).mp h
    exact ⟨hip, enbUe, hsome, hlive, hencodes⟩
  · rintro ⟨hip, enbUe, hsome, hlive, hencodes⟩
    exact ⟨enbUe, hsome, (hrest enbUe).mpr ⟨hlive, hip, hencodes⟩⟩

theorem returns_nasSendAttachAccept :
    Returns (s.nasSendAttachAccept mmeUe ue) ↔ s.SendsAttachAccept ue := by
  unfold nasSendAttachAccept SendsAttachAccept
  split
  · rename_i sess hsess
    split
    · rename_i bearer hbearer
      cases hpkbuf : ue.t3450.pkbuf with
      | some kenb =>
        simp only [returns_assertSome_bind, returns_useEnbUe_bind, returns_ok, and_true]
        constructor
        · exact fun h => ⟨sess, bearer, hsess, hbearer, h⟩
        · rintro ⟨_, _, _, _, h⟩
          exact h
      | none =>
        constructor
        · intro h
          obtain ⟨r, hr, -⟩ := returns_bind.mp h
          obtain ⟨pdn, bearer', hbuilds⟩ := S11Ue.returns_esmBuild.mp ⟨r, hr⟩
          obtain rfl : bearer = bearer' := by simpa [hbearer] using hbuilds.2.1
          exact ⟨sess, bearer, hsess, hbearer, pdn, hbuilds,
            (returns_attachAccept_none hsess hbuilds).mp h⟩
        · rintro ⟨sess', bearer', hsess', -, pdn, hbuilds, h⟩
          obtain rfl : sess = sess' := by simpa [hsess] using hsess'
          exact (returns_attachAccept_none hsess hbuilds).mpr h
    · rename_i hbearer
      refine iff_of_false (not_returns_error _) ?_
      rintro ⟨sess', bearer, hsess', hbearer', -⟩
      obtain rfl : sess = sess' := by simpa [hsess] using hsess'
      exact hbearer bearer hbearer'
  · rename_i hsess
    refine iff_of_false (not_returns_error _) ?_
    rintro ⟨sess, -, hsess', -⟩
    exact hsess sess hsess'

theorem returns_nasSendDetachAccept : Returns (s.nasSendDetachAccept mmeUe) ↔
    s.SendsDetachAccept (s.mmeUes.mem mmeUe) := by
  have hrelease {s' : S11Mme} (hs' : s'.enbUes = s.enbUes) (enbUe : EnbUeId) :
      Returns (s'.clearAndRelease enbUe causeNasDetach .s1NormalRelease false) ↔
        s.Releases enbUe causeNasDetach := by
    rw [returns_releaseCommand (by decide), releases_congr hs']
  unfold nasSendDetachAccept SendsDetachAccept
  rw [returns_assertSome_bind]
  cases hswitchOff : (s.mmeUes.mem mmeUe).nasEps.switchOff with
  | true =>
    simp only [if_true, Bool.true_eq_false, false_implies, true_and]
    exact exists_congr fun enbUe => and_congr_right fun _ => hrelease rfl enbUe
  | false =>
    have hrest (enbUe : EnbUeId) : Returns ((s.mmeUes.mem mmeUe).nasSecurityEncode .detachAccept >>=
        fun r => (s.putMmeUe mmeUe r.1).nasSendToDownlinkNasTransport (some enbUe) r.2 >>=
        fun s' => s'.clearAndRelease enbUe causeNasDetach .s1NormalRelease false) ↔
        (s.mmeUes.mem mmeUe).Protects ∧ s.SendsIfConnected (some enbUe) ∧
        s.Releases enbUe causeNasDetach := by
      rw [returns_bind_iff, S11Ue.returns_nasSecurityEncode]
      intro r _
      have hkept {s' : S11Mme} (hs' : (s.putMmeUe mmeUe r.1).nasSendToDownlinkNasTransport
          (some enbUe) r.2 = .ok s') : s'.enbUes = s.enbUes :=
        (enbUes_of_downlinkNasTransport hs').trans rfl
      rw [returns_bind_iff fun s' hs' => hrelease (hkept hs') enbUe, returns_downlinkNasTransport]
      rfl
    simp only [Bool.false_eq_true, if_false, forall_const]
    constructor
    · rintro ⟨enbUe, henbUe, h⟩
      obtain ⟨hprotects, hsends, hreleases⟩ := (hrest enbUe).mp h
      exact ⟨⟨hprotects, enbUe, henbUe, hsends enbUe rfl⟩, enbUe, henbUe, hreleases⟩
    · rintro ⟨⟨hprotects, enbUe', henbUe', hsends⟩, enbUe, henbUe, hreleases⟩
      obtain rfl : enbUe = enbUe' := Option.some.inj (henbUe.symm.trans henbUe')
      refine ⟨enbUe, henbUe, (hrest enbUe).mpr ⟨hprotects, ?_, hreleases⟩⟩
      rintro e ⟨⟩
      exact hsends

end
end S11Mme

end NextEpc

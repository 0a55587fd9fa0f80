import NextEpc.Mme.Authentication

/-!
# The security mode procedure

`emm_state_security_mode` is left by a Security Mode Complete with an integrity protected
header while no check has failed. The check itself was made when the PDU came, which may have
been before the Security Mode Command of this stay.
-/

namespace NextEpc

namespace MmeCall

def securityModeCommand? : MmeCall → Option Octets16
  | securityModeCommand _ knasInt => some knasInt
  | _ => none

/-- A PDU is decoded and its code is wrong. -/
def Fails [OgsCrypt] (call : MmeCall) : Prop :=
  ∃ ue pdu count, call = nasSecurityDecode ue pdu ∧ NasChecked ue pdu count false

end MmeCall

namespace MmeLog

/-- The integrity key of the Security Mode Command that was sent in the current state. -/
def stayKey (log : MmeLog) : Option Octets16 :=
  History.latest (fun item => item.call.securityModeCommand?) log.stay

section
variable [OgsCrypt]

/-- A transition from `emm_state_security_mode` to one of the states behind it is caused by a
Security Mode Complete with an integrity protected header whose code verified under the key of
the Security Mode Command of this stay, and no PDU of this stay failed. -/
def Completes (item : MmeLogItem) (past : MmeLog) : Prop :=
  ∀ target, item.call = .tran .securityMode target →
    target = .initialContextSetup ∨ target = .registered →
    ∃ h ∈ item.cause, h.message.body = .securityModeComplete ∧
      h.event.nasType.integrityProtected = true ∧
      (∃ p ∈ h.event.origin.decoded, stayKey past = some p.1.knasInt ∧
        ∃ count, NasChecked p.1 h.event.origin.pdu count true) ∧
      ∀ item ∈ past.stay, ¬item.call.Fails

omit [OgsCrypt] in
/-- A Security Mode Complete with an integrity protected header was decoded in the stay in
which it is handled. -/
def CompleteInStay (item : MmeLogItem) (past : MmeLog) : Prop :=
  item.call = .emmMessage → ∀ h ∈ item.cause, h.ue.sm = .securityMode →
    h.message.body = .securityModeComplete → h.event.nasType.integrityProtected = true →
    ∃ p ∈ h.event.origin.decoded, ∃ item ∈ past.stay,
      item.call = .nasSecurityDecode p.1 h.event.origin.pdu

omit [OgsCrypt] in
instance (item : MmeLogItem) (past : MmeLog) : Decidable (CompleteInStay item past) :=
  inferInstanceAs (Decidable (_ → _))

/-- What is known of a PDU that was decoded in a stay, for the context as it is now. -/
structure DecodedInStay (now ue : MmeUe) (pdu : Bytes) : Prop where
  knasInt : ue.knasInt = now.knasInt
  isChecked : NasIntegrityProtected pdu → ∃ count ok, NasChecked ue pdu count ok
  failed : ∀ count, NasChecked ue pdu count false → now.macFailed = true

/-- The stay in `emm_state_security_mode`. -/
structure SecurityModeStay (log : MmeLog) (ue : MmeUe) : Prop where
  key : stayKey log = some ue.knasInt
  available : ue.securityContextAvailable = true
  algorithm : NasIntegrityAlgorithm ue.selectedIntAlgorithm
  decoded : ∀ item ∈ log.stay, ∀ before pdu, item.call = .nasSecurityDecode before pdu →
    DecodedInStay ue before pdu

variable {log : MmeLog} {ue ue' before : MmeUe} {cause : Option Handling} {call : MmeCall}
  {pdu : Bytes} {ok : Bool}

omit [OgsCrypt] in
theorem stayKey_cons (htarget : call.target? = none) (hcall : call.securityModeCommand? = none) :
    stayKey (⟨cause, call⟩ :: log) = stayKey log := by
  unfold stayKey
  rw [stay_cons htarget]
  exact History.latest_cons_of_none hcall

theorem DecodedInStay.mono (hd : DecodedInStay ue before pdu) (hknasInt : ue'.knasInt = ue.knasInt)
    (hfailed : ue.macFailed = true → ue'.macFailed = true) : DecodedInStay ue' before pdu where
  knasInt := hd.knasInt.trans hknasInt.symm
  isChecked := hd.isChecked
  failed count hchecked := hfailed (hd.failed count hchecked)

/-- The keys stay and a failure is not forgotten. -/
theorem SecurityModeStay.keep (hs : SecurityModeStay log ue) (hknasInt : ue'.knasInt = ue.knasInt)
    (havailable : ue'.securityContextAvailable = true)
    (halgorithm : ue'.selectedIntAlgorithm = ue.selectedIntAlgorithm)
    (hfailed : ue.macFailed = true → ue'.macFailed = true) : SecurityModeStay log ue' where
  key := by rw [hs.key, hknasInt]
  available := havailable
  algorithm := by rw [halgorithm]; exact hs.algorithm
  decoded item hitem before pdu hcall :=
    (hs.decoded item hitem before pdu hcall).mono hknasInt hfailed

theorem SecurityModeStay.keep_security (hs : SecurityModeStay log ue)
    (hue : ue'.security = ue.security) : SecurityModeStay log ue' := by
  have hmac : ue'.macFailed = ue.macFailed := by
    have h := congrArg MmeUe.macFailed hue
    exact h
  apply hs.keep
  · have h := congrArg MmeUe.knasInt hue
    exact h
  · have h := congrArg MmeUe.securityContextAvailable hue
    exact h.trans hs.available
  · have h := congrArg MmeUe.selectedIntAlgorithm hue
    exact h
  · rw [hmac]
    exact id

theorem SecurityModeStay.cons (hs : SecurityModeStay log ue) (htarget : call.target? = none)
    (hcommand : call.securityModeCommand? = none)
    (hdecode : ∀ before pdu, call = .nasSecurityDecode before pdu → DecodedInStay ue before pdu) :
    SecurityModeStay (⟨cause, call⟩ :: log) ue where
  key := (stayKey_cons htarget hcommand).trans hs.key
  available := hs.available
  algorithm := hs.algorithm
  decoded item hitem before pdu hcall := by
    rw [stay_cons htarget] at hitem
    rcases List.mem_cons.mp hitem with rfl | hitem
    · exact hdecode before pdu hcall
    · exact hs.decoded item hitem before pdu hcall

theorem SecurityModeStay.store {vector : EUtranVector} (hs : SecurityModeStay log ue) :
    SecurityModeStay log (ue.storeVector vector) := by
  apply hs.keep
  · dsimp only [MmeUe.storeVector]
  · exact hs.available
  · dsimp only [MmeUe.storeVector]
  · exact id

theorem SecurityModeStay.stored {m : Mme} {id : Nat} {vector : EUtranVector}
    {pendingAirs : List Nat} (hs : SecurityModeStay m.log ue) :
    SecurityModeStay (m.stored ue id vector pendingAirs).log
      (m.stored ue id vector pendingAirs).ue := by
  have hkept : SecurityModeStay m.log (m.stored ue id vector pendingAirs).ue :=
    hs.keep rfl hs.available rfl fun h => h
  exact hkept.cons rfl rfl fun _ _ heq => nomatch heq

/-- A PDU is decoded in the stay. -/
theorem SecurityModeStay.decode (hs : SecurityModeStay log ue) (hd : ue.Decodes pdu ue') :
    SecurityModeStay (⟨cause, .nasSecurityDecode ue pdu⟩ :: log) ue' := by
  have hkeep : SecurityModeStay log ue' := by
    obtain ⟨ulCount, failed, rfl⟩ := hd.shape
    refine hs.keep rfl hs.available rfl fun hmac => ?_
    rw [hmac]
    rfl
  refine hkeep.cons rfl rfl fun before pdu' heq => ?_
  cases heq
  refine ⟨?_, fun hprotected => hd.isChecked hprotected hs.available hs.algorithm, ?_⟩
  · obtain ⟨ulCount, failed, rfl⟩ := hd.shape
    rfl
  · intro count hchecked
    rw [hd.checked count false hchecked]
    exact Bool.or_true _

end

end MmeLog

section
variable [OgsCrypt] {cfg : MmeConfig} {m m' : Mme} {h : Handling} {target : EmmState}

/-- What the proofs about the security mode procedure carry along. -/
structure Mme.Secured (m : Mme) : Prop where
  stay : m.log.emmState = .securityMode → m.log.SecurityModeStay m.ue
  stripped : ∀ h ∈ m.handling, ∃ stripped,
    s1apStripSecurityHeader h.event.origin.pdu = .ok (some (h.event.nasType, stripped))
  completes : History.Always MmeLog.Completes m.log

omit [OgsCrypt] in
/-- The header type of the PDU asks for a check. -/
theorem nasIntegrityProtected_of_strip {pdu : Bytes} {type : NasSecurityHeaderType}
    {stripped : Pkbuf} (hstrip : s1apStripSecurityHeader pdu = .ok (some (type, stripped)))
    (htype : type.integrityProtected = true) : NasIntegrityProtected pdu := by
  cases pdu with
  | nil => cases hstrip
  | cons first rest =>
    refine ⟨first, rfl, Or.inl ?_⟩
    unfold s1apStripSecurityHeader at hstrip
    dsimp only at hstrip
    split at hstrip
    · cases hstrip
      cases htype
    · split at hstrip
      · cases hstrip
        cases htype
      · cases hproto : nasProtectedHeaderType (first >>> 4) with
        | some _ => rfl
        | none =>
          rw [hproto] at hstrip
          cases hstrip

theorem MmeOp.securityModeStay (hop : MmeOp m m')
    (hs : m.log.emmState = .securityMode → m.log.SecurityModeStay m.ue)
    (hstate : m'.log.emmState = .securityMode) : m'.log.SecurityModeStay m'.ue := by
  rw [hop.emmState] at hstate
  have hs := hs hstate
  cases hop with
  | keep hue => exact hs.keep_security hue.security
  | protect => exact hs.keep rfl rfl rfl id
  | air hair => exact absurd hstate hair
  | kdfEnb =>
    have hkept : m.log.SecurityModeStay m.kdfEnb.ue := hs.keep rfl hs.available rfl id
    exact hkept.cons rfl rfl fun _ _ heq => nomatch heq
  | @attachAccept s1apbuf ue _ _ _ hue =>
    have hkept : m.log.SecurityModeStay ue := by
      rcases hue with hsame | havailable
      · exact hs.keep_security hsame
      · rw [← hs.available] at havailable
        exact hs.keep_security havailable
    have haccept : (m.say (.attachAccept m.ue.sm)).log.SecurityModeStay ue :=
      hkept.cons rfl rfl fun _ _ heq => nomatch heq
    exact haccept.cons rfl rfl fun _ _ heq => nomatch heq
  | _ => exact hs.cons rfl rfl fun _ _ heq => nomatch heq

theorem MmeOp.completes (hop : MmeOp m m') (hm : History.Always MmeLog.Completes m.log) :
    History.Always MmeLog.Completes m'.log := by
  cases hop with
  | keep | protect => exact hm
  | attachAccept => exact ⟨(fun _ h => nomatch h), (fun _ h => nomatch h), hm⟩
  | _ => exact ⟨(fun _ h => nomatch h), hm⟩

/-- The end of the procedure, when the message was decoded in its stay. -/
theorem Mme.Secured.complete (hm : m.Secured) (henters : m.Enters target)
    (hstate : m.log.emmState = .securityMode)
    (htarget : target = .initialContextSetup ∨ target = .registered)
    (hcond : History.Always MmeLog.CompleteInStay m.log) :
    ∃ h ∈ m.handling, h.message.body = .securityModeComplete ∧
      h.event.nasType.integrityProtected = true ∧
      (∃ p ∈ h.event.origin.decoded, m.log.stayKey = some p.1.knasInt ∧
        ∃ count, NasChecked p.1 h.event.origin.pdu count true) ∧
      ∀ item ∈ m.log.stay, ¬item.call.Fails := by
  have hs := hm.stay hstate
  cases henters with
  | deRegistered => rcases htarget with heq | heq <;> cases heq
  | exception => rcases htarget with heq | heq <;> cases heq
  | authentication => rcases htarget with heq | heq <;> cases heq
  | securityMode => rcases htarget with heq | heq <;> cases heq
  | attach hcontinues hsource =>
    rcases hcontinues.sm with hsm | hsm
    · cases hstate.symm.trans (hsource.trans hsm)
    · cases hstate.symm.trans (hsource.trans hsm)
  | attachComplete hcompletes hsource =>
    cases hstate.symm.trans (hsource.trans hcompletes.sm)
  | @complete h past _ _ hhandling _ hsource hbody htype hvalid hmac hlog =>
    have hmessage := hcond
    rw [hlog] at hmessage
    obtain ⟨p, hp, item, hitem, hcall⟩ := hmessage.2.1 rfl h rfl hsource hbody htype
    have hfailed : ∀ item ∈ m.log.stay, ¬item.call.Fails := by
      rintro item' hitem' ⟨ue, pdu, count, hdecode, hchecked⟩
      have hmark := (hs.decoded item' hitem' ue pdu hdecode).failed count hchecked
      rw [hmac] at hmark
      cases hmark
    have hstay : item ∈ m.log.stay := by
      rw [hlog, MmeLog.stay_cons rfl, MmeLog.stay_cons rfl]
      exact List.mem_cons_of_mem _ (List.mem_cons_of_mem _ hitem)
    have hdecoded := hs.decoded item hstay p.1 h.event.origin.pdu hcall
    obtain ⟨stripped, hstrip⟩ := hm.stripped h hhandling
    obtain ⟨count, ok, hchecked⟩ :=
      hdecoded.isChecked (nasIntegrityProtected_of_strip hstrip htype)
    refine ⟨h, hhandling, hbody, htype, ⟨p, hp, ?_, count, ?_⟩, hfailed⟩
    · rw [hs.key, hdecoded.knasInt]
    · cases ok with
      | true => exact hchecked
      | false => exact absurd ⟨p.1, _, count, hcall, hchecked⟩ (hfailed item hstay)

theorem Mme.Secured.move (hm : m.Secured) (hmove : MmeMove cfg m m')
    (hcond : History.Always MmeLog.CompleteInStay m'.log) : m'.Secured := by
  refine ⟨?_, ?_, ?_⟩
  · intro hstate
    cases hmove with
    | op hop => exact hop.securityModeStay hm.stay hstate
    | enbUes => exact (hm.stay hstate).keep_security rfl
    | queue | pendingAirs | handled => exact hm.stay hstate
    | decode _ hdecodes => exact (hm.stay hstate).decode hdecodes
    | decodeAgain =>
      have hs := hm.stay hstate
      refine hs.keep rfl hs.available rfl fun hmac => ?_
      rw [hmac]
      rfl
    | aia =>
      rw [Mme.emmState_stored] at hstate
      exact (hm.stay hstate).store.stored
    | kdfNh =>
      have hs := hm.stay hstate
      have hkept : m.log.SecurityModeStay m.kdfNh.ue := hs.keep rfl hs.available rfl id
      exact hkept.cons rfl rfl fun _ _ heq => nomatch heq
    | enter _ htarget => rcases htarget with rfl | rfl | rfl <;> cases hstate
    | leave _ htarget => rcases htarget with rfl | rfl <;> cases hstate
    | enterSecurityMode _ _ _ _ halgorithm =>
      refine ⟨rfl, rfl, halgorithm, fun item hitem before pdu hcall => ?_⟩
      rw [MmeLog.stay_cons rfl, MmeLog.stay_tran] at hitem
      rw [List.mem_singleton.mp hitem] at hcall
      cases hcall
    | attachAgain => cases hstate
    | _ => exact (hm.stay hstate).cons rfl rfl fun _ _ heq => nomatch heq
  · cases hmove with
    | op hop =>
      rw [hop.handling]
      exact hm.stripped
    | message _ _ _ hstripped =>
      intro h' hh'
      cases hh'
      exact hstripped
    | handled => exact fun h' hh' => nomatch hh'
    | aia =>
      rw [Mme.handling_stored]
      exact hm.stripped
    | _ => exact hm.stripped
  · cases hmove with
    | op hop => exact hop.completes hm.completes
    | enter henters htarget =>
      refine ⟨fun target htran hcases => ?_, hm.completes⟩
      injection htran with hsource hsame
      exact hm.complete (hsame ▸ henters) hsource hcases hcond.2
    | leave _ htarget =>
      refine ⟨fun target htran hcases => ?_, hm.completes⟩
      injection htran with _ hsame
      rw [hsame] at htarget
      rcases htarget with rfl | rfl <;> rcases hcases with heq | heq <;> cases heq
    | enterSecurityMode =>
      exact ⟨(fun _ h => nomatch h), (fun _ h => nomatch h), hm.completes⟩
    | attachAgain =>
      refine ⟨fun target htran hcases => ?_, (fun _ h => nomatch h), hm.completes⟩
      injection htran with _ hsame
      rw [← hsame] at hcases
      rcases hcases with heq | heq <;> cases heq
    | enbUes | queue | pendingAirs | decodeAgain | handled => exact hm.completes
    | aia =>
      rw [Mme.log_stored]
      exact ⟨(fun _ h => nomatch h), hm.completes⟩
    | _ => exact ⟨(fun _ h => nomatch h), hm.completes⟩

/-- If each protected Security Mode Complete was decoded in the stay in which it is handled,
the procedure ends with one that verified under the key of its command. -/
theorem completes_of_completeInStay [NasDecoder] (hinitial : m.Initial)
    (hreaches : Lts.Reaches (Mme.Step cfg) m m')
    (hcond : History.Always MmeLog.CompleteInStay m'.log) :
    History.Always MmeLog.Completes m'.log := by
  have hsecured : m.Secured := by
    refine ⟨fun hstate => ?_, fun h hh => ?_, ?_⟩
    · rw [hinitial.log] at hstate
      cases hstate
    · rw [hinitial.handling] at hh
      cases hh
    · rw [hinitial.log]
      trivial
  have hafter : m'.Secured := hinitial.invariant (fun _ _ hm hmove hlog => hm.move hmove hlog)
    hsecured hreaches hcond
  exact hafter.completes

end

/-- A UE answers the Security Mode Command. -/
def sampleSecurityMode : List MmeLabel :=
  sampleResponse ++ sampleUplink [0x47, 9, 9, 9, 9, 0, 0x07, 0x5e]

theorem completes_sampleSecurityMode :
    let _ := OgsCrypt.reference
    let _ := NasDecoder.reference
    History.Always MmeLog.Completes (sampleRun sampleSecurityMode).log :=
  @completes_of_completeInStay OgsCrypt.reference sampleConfig sampleMme _
    NasDecoder.reference sampleMme_initial
    (@sampleRun_reaches OgsCrypt.reference NasDecoder.reference _ (by decide +kernel))
    (by decide +kernel)

/-- A Security Mode Complete with any code comes right after the Authentication Response, when
there is no Security Mode Command yet. -/
def sampleEarlyComplete : List MmeLabel :=
  sampleAttach ++
    [.uplink {} 0 .uplinkNasTransport [0x07, 0x53, 8, 1, 2, 3, 4, 5, 6, 7, 8],
      .uplink {} 0 .uplinkNasTransport [0x47, 1, 2, 3, 4, 0, 0x07, 0x5e],
      .message {} none, .message {} none]

/-- The end of the procedure is caused by a PDU that was decoded under the key of the Security
Mode Command. -/
def MmeLog.CompletesUnderKey (item : MmeLogItem) (past : MmeLog) : Prop :=
  item.call = .tran .securityMode .initialContextSetup →
    ∃ h ∈ item.cause, ∃ p ∈ h.event.origin.decoded, stayKey past = some p.1.knasInt

instance (item : MmeLogItem) (past : MmeLog) : Decidable (MmeLog.CompletesUnderKey item past) :=
  inferInstanceAs (Decidable (_ → _))

theorem MmeLog.Completes.underKey [OgsCrypt] {item : MmeLogItem} {past : MmeLog}
    (h : Completes item past) : CompletesUnderKey item past := by
  intro htran
  obtain ⟨h, hcause, -, -, ⟨p, hp, hkey, -⟩, -⟩ := h _ htran (Or.inl rfl)
  exact ⟨h, hcause, p, hp, hkey⟩

/-- The early message is accepted without a check. -/
theorem completes_early :
    let _ := OgsCrypt.reference
    let _ := NasDecoder.reference
    ¬∀ m m' : Mme, m.Initial → Lts.Reaches (Mme.Step sampleConfig) m m' →
      History.Always MmeLog.Completes m'.log := by
  intro crypt decoder hclaim
  have hreaches := @sampleRun_reaches OgsCrypt.reference NasDecoder.reference
    sampleEarlyComplete (by decide +kernel)
  have hlog := hclaim sampleMme _ sampleMme_initial hreaches
  have hkeys : History.Always MmeLog.CompletesUnderKey _ :=
    hlog.mono fun _ _ => MmeLog.Completes.underKey
  exact absurd hkeys (by decide +kernel)

end NextEpc

import NextEpc.Mme.KeyChain

/-!
# The integrity gate

A request is granted while the security context is valid, which means that no check has
failed since the last Authentication-Information-Request. A message without a check passes.
An Attach Complete, a Detach Request and ESM messages pass in any case.
-/

namespace NextEpc

namespace MmeCall

/-- What a message may cause only if its code has been verified. -/
def isGated : MmeCall → Bool
  | emmToEsm | tauAccept | ueContextModificationRequest => true
  | initialContextSetupRequest _ _ => true
  | tran .registered .deRegistered => true
  | _ => false

def decode? : MmeCall → Option (MmeUe × Bytes)
  | nasSecurityDecode ue pdu => some (ue, pdu)
  | _ => none

def esmMessage? : MmeCall → Option NasOrigin
  | esmMessage origin => origin
  | _ => none

end MmeCall

namespace EmmMessage

/-- A request that is granted in the register states. -/
def isRequest (message : EmmMessage) : Bool :=
  message.serviceRequest.isSome || match message.body with
    | .attachRequest _ | .trackingAreaUpdateRequest _ | .extendedServiceRequest _ => true
    | .identityResponse _ => true
    | _ => false

def isAttachComplete (message : EmmMessage) : Bool :=
  match message.body with
  | .attachComplete _ => true
  | _ => false

def isDetachRequest (message : EmmMessage) : Bool :=
  match message.body with
  | .detachRequest _ => true
  | _ => false

theorem IsRequest.isRequest {message : EmmMessage} (h : message.IsRequest) :
    message.isRequest = true := by
  unfold EmmMessage.isRequest
  rcases h with hservice | ⟨_, hbody⟩ | ⟨_, hbody⟩ | ⟨_, hbody⟩ | ⟨_, hbody⟩
  · rw [hservice]
    rfl
  all_goals rw [hbody, Bool.or_true]

end EmmMessage

/-- The context was valid when the PDU came. -/
def NasOrigin.CameValid (origin : NasOrigin) : Prop :=
  ∃ p ∈ origin.decoded, p.1.SecurityContextIsValid

/-- The UE has a valid context, when the PDU comes or when the message is handled. -/
def Handling.InContext (h : Handling) : Prop :=
  h.ue.SecurityContextIsValid ∨ h.event.origin.CameValid

/-- The message is granted without being a request: an Attach Complete that is waited for or
a Detach Request of a registered UE. -/
def Handling.PassesUnchecked (h : Handling) : Prop :=
  h.ue.sm = .initialContextSetup ∧ h.message.isAttachComplete = true ∨
    h.ue.sm = .registered ∧ h.message.isDetachRequest = true

instance (origin : NasOrigin) : Decidable origin.CameValid :=
  inferInstanceAs (Decidable (∃ _ ∈ _, _))

instance (h : Handling) : Decidable h.InContext := inferInstanceAs (Decidable (_ ∨ _))

instance (h : Handling) : Decidable h.PassesUnchecked := inferInstanceAs (Decidable (_ ∨ _))

/-- The PDU has a code, which was checked after the last Authentication-Information-Request
under a non-null algorithm. -/
structure MmeLog.CodeSinceAir (past : MmeLog) (pdu : Bytes) (ue : MmeUe) : Prop where
  isProtected : NasIntegrityProtected pdu
  available : ue.securityContextAvailable = true
  algorithm : NasIntegrityAlgorithm ue.selectedIntAlgorithm
  decoded : ∃ i ∈ past.sinceAir, i.call.decode? = some (ue, pdu)

section
variable [OgsCrypt]

/-- The code was verified when the PDU came. -/
def NasOrigin.Verified (origin : NasOrigin) : Prop :=
  ∃ p ∈ origin.decoded, ∃ count, NasChecked p.1 origin.pdu count true

/-- The PDU is one that a UE sends that has the keys which the MME had when it came, with a count
that the MME can rebuild. -/
def NasOrigin.Genuine (origin : NasOrigin) : Prop :=
  ∃ p ∈ origin.decoded, p.1.securityContextAvailable = true ∧
    NasIntegrityAlgorithm p.1.selectedIntAlgorithm ∧
    ∃ (u : NasUplink) (c : Nat), u.WellFormed ∧ u.Window p.1.ulCount.toNat c ∧
      origin.pdu = u.pdu p.1 c

theorem NasOrigin.Genuine.verified {origin : NasOrigin} (h : origin.Genuine) :
    origin.Verified := by
  obtain ⟨p, hp, havailable, hint, u, c, hu, hc, hpdu⟩ := h
  refine ⟨p, hp, UlCount.ofNat c, ?_⟩
  rw [hpdu]
  exact u.checked p.1 c havailable hint hu hc

namespace MmeLog

/-- In a valid context nothing is granted and no ESM message is processed unless the code of
the PDU was verified. -/
structure Gate (item : MmeLogItem) (past : MmeLog) : Prop where
  message : item.call.isGated = true → ∀ h ∈ item.cause, h.InContext → h.event.origin.Verified
  esm : ∀ origin ∈ item.call.esmMessage?, origin.CameValid → origin.Verified

/-- Requests come in PDUs with a code that is checked, and the messages that pass without a check
in PDUs that the UE has sent. -/
structure GateInOrder (item : MmeLogItem) (past : MmeLog) : Prop where
  request : item.call = .emmMessage → ∀ h ∈ item.cause, h.InRegisterState →
    h.message.isRequest = true → h.ue.securityContextAvailable = true → h.ue.macFailed = false →
    ∃ p ∈ h.event.origin.decoded, past.CodeSinceAir h.event.origin.pdu p.1
  unchecked : item.call = .emmMessage → ∀ h ∈ item.cause, h.PassesUnchecked → h.InContext →
    h.event.origin.Genuine
  esm : ∀ origin ∈ item.call.esmMessage?, origin.CameValid → origin.Genuine

end MmeLog

/-- What the proofs about the gate carry along: PDUs with a code were checked, and a failure
is marked until the next Authentication-Information-Request. -/
structure Mme.Guards (m : Mme) : Prop where
  isChecked : ∀ i ∈ m.log, ∀ p ∈ i.call.decode?, NasIntegrityProtected p.2 →
    p.1.securityContextAvailable = true → NasIntegrityAlgorithm p.1.selectedIntAlgorithm →
    ∃ count ok, NasChecked p.1 p.2 count ok
  failed : ∀ i ∈ m.log.sinceAir, i.call.Fails → m.ue.macFailed = true
  gate : History.Always MmeLog.Gate m.log

variable {cfg : MmeConfig} {m m' : Mme} {h : Handling} {cause : Option Handling} {call : MmeCall}
  {target : EmmState}

omit [OgsCrypt] in
theorem MmeLog.sinceAir_append {calls past : MmeLog}
    (hcalls : ∀ item ∈ calls, item.call.isAir = false) :
    sinceAir (calls ++ past) = calls ++ sinceAir past := by
  induction calls with
  | nil => rfl
  | cons item calls ih =>
    have hitem := hcalls item List.mem_cons_self
    rw [List.cons_append, List.cons_append, sinceAir_cons hitem,
      ih fun i hi => hcalls i (List.mem_cons_of_mem item hi)]

/-- A call that is neither gated nor a processed ESM message. -/
theorem MmeLog.Gate.of_not {past : MmeLog} (hgated : call.isGated = false)
    (hesm : call.esmMessage? = none) : MmeLog.Gate ⟨cause, call⟩ past where
  message h := by
    rw [hgated] at h
    cases h
  esm origin horigin := by
    dsimp only at horigin
    rw [hesm] at horigin
    cases horigin

/-- A gated call whose message was verified. -/
theorem MmeLog.Gate.of_verified {past : MmeLog} (hesm : call.esmMessage? = none)
    (hverified : ∀ h ∈ cause, h.InContext → h.event.origin.Verified) :
    MmeLog.Gate ⟨cause, call⟩ past where
  message _ := hverified
  esm origin horigin := by
    dsimp only at horigin
    rw [hesm] at horigin
    cases horigin

namespace Mme.Guards

theorem keep (hm : m.Guards) (hlog : m'.log = m.log)
    (hmac : m.ue.macFailed = true → m'.ue.macFailed = true) : m'.Guards where
  isChecked := by
    rw [hlog]
    exact hm.isChecked
  failed i hi hfails := by
    rw [hlog] at hi
    exact hmac (hm.failed i hi hfails)
  gate := by
    rw [hlog]
    exact hm.gate

/-- A call that is no decoding. An Authentication-Information-Request may forget failures. -/
theorem add (hm : m.Guards) (hlog : m'.log = ⟨cause, call⟩ :: m.log)
    (hmac : call.isAir = false → m.ue.macFailed = true → m'.ue.macFailed = true)
    (hdecode : call.decode? = none) (hgate : MmeLog.Gate ⟨cause, call⟩ m.log) : m'.Guards where
  isChecked i hi p hp := by
    rw [hlog] at hi
    rcases List.mem_cons.mp hi with rfl | hi
    · dsimp only at hp
      rw [hdecode] at hp
      cases hp
    · exact hm.isChecked i hi p hp
  failed i hi hfails := by
    rw [hlog] at hi
    cases hair : call.isAir with
    | true =>
      have hnil : MmeLog.sinceAir (⟨cause, call⟩ :: m.log) = [] := History.since_cons_of hair
      rw [hnil] at hi
      exact absurd hi List.not_mem_nil
    | false =>
      rw [MmeLog.sinceAir_cons hair] at hi
      rcases List.mem_cons.mp hi with rfl | hi
      · obtain ⟨ue, pdu, count, hcall, -⟩ := hfails
        dsimp only at hcall
        rw [hcall] at hdecode
        cases hdecode
      · exact hmac hair (hm.failed i hi hfails)
  gate := by
    rw [hlog]
    exact ⟨hgate, hm.gate⟩

theorem say (hm : m.Guards) (hdecode : call.decode? = none)
    (hgate : MmeLog.Gate ⟨m.handling, call⟩ m.log) : (m.say call).Guards :=
  hm.add rfl (fun _ h => h) hdecode hgate

theorem stored (hm : m.Guards) {ue : MmeUe} {id : Nat} {vector : EUtranVector}
    {pendingAirs : List Nat} (hmac : ue.macFailed = m.ue.macFailed) :
    (m.stored ue id vector pendingAirs).Guards :=
  hm.add Mme.log_stored (fun _ h => hmac.trans h) rfl (.of_not rfl rfl)

/-- A PDU is decoded. -/
theorem decode (hm : m.Guards) {pdu : Bytes} {ue' : MmeUe} (hd : m.ue.Decodes pdu ue') :
    (({ m with ue := ue' } : Mme).say (.nasSecurityDecode m.ue pdu)).Guards where
  isChecked i hi p hp := by
    rcases List.mem_cons.mp hi with rfl | hi
    · cases hp
      exact hd.isChecked
    · exact hm.isChecked i hi p hp
  failed i hi hfails := by
    change i ∈ MmeLog.sinceAir (⟨m.handling, .nasSecurityDecode m.ue pdu⟩ :: m.log) at hi
    rw [MmeLog.sinceAir_cons rfl] at hi
    change ue'.macFailed = true
    rcases List.mem_cons.mp hi with rfl | hi
    · obtain ⟨ue, pdu', count, hcall, hchecked⟩ := hfails
      cases hcall
      rw [hd.checked count false hchecked]
      exact Bool.or_true _
    · obtain ⟨ulCount, failed, rfl⟩ := hd.shape
      dsimp only
      rw [hm.failed i hi hfails]
      rfl
  gate := ⟨.of_not rfl rfl, hm.gate⟩

/-- A request that is granted was verified, if its PDU has a code. -/
theorem continues (hm : m.Guards) (hc : m.Continues h)
    (hcond : History.Always MmeLog.GateInOrder m.log) : h.event.origin.Verified := by
  obtain ⟨calls, past, hlog, hcalls⟩ := hc.log
  rw [hlog] at hcond
  obtain ⟨p, hp, hcode⟩ :=
    hcond.of_append.1.request rfl h rfl hc.sm hc.request.isRequest hc.available hc.notFailed
  obtain ⟨i, hi, hdecode⟩ := hcode.decoded
  have hsince : i ∈ m.log.sinceAir := by
    rw [hlog, MmeLog.sinceAir_append hcalls, MmeLog.sinceAir_cons rfl]
    exact List.mem_append_right _ (List.mem_cons_of_mem _ hi)
  obtain ⟨count, ok, hchecked⟩ := hm.isChecked i (History.mem_of_mem_since hsince) _ hdecode
    hcode.isProtected hcode.available hcode.algorithm
  cases ok with
  | true => exact ⟨p, hp, count, hchecked⟩
  | false =>
    have hcall : i.call = .nasSecurityDecode p.1 h.event.origin.pdu := by
      cases hcall : i.call with
      | nasSecurityDecode ue pdu =>
        rw [hcall] at hdecode
        cases hdecode
        rfl
      | _ =>
        rw [hcall] at hdecode
        cases hdecode
    have hmark := hm.failed i hsince ⟨p.1, _, count, hcall, hchecked⟩
    rw [hc.macFailed] at hmark
    cases hmark

/-- A message that passes unchecked is one of the UE. -/
theorem unchecked {calls past : MmeLog}
    (hcond : History.Always MmeLog.GateInOrder m.log)
    (hlog : m.log = calls ++ ⟨some h, .emmMessage⟩ :: past) (hpasses : h.PassesUnchecked)
    (hcontext : h.InContext) : h.event.origin.Verified := by
  rw [hlog] at hcond
  exact (hcond.of_append.1.unchecked rfl h rfl hpasses hcontext).verified

end Mme.Guards

theorem MmeOp.guards (hop : MmeOp m m') (hm : m.Guards)
    (hcond : History.Always MmeLog.GateInOrder m'.log) : m'.Guards := by
  cases hop with
  | @keep ue hue =>
    have hmac : ue.macFailed = m.ue.macFailed := congrArg (fun ue => ue.macFailed) hue.security
    exact hm.keep rfl fun h => hmac.trans h
  | protect => exact hm.keep rfl id
  | air => exact hm.add rfl (fun hair => nomatch hair) rfl (.of_not rfl rfl)
  | authenticationRequest => exact hm.say rfl (.of_not rfl rfl)
  | kdfEnb => exact hm.add rfl (fun _ h => h) rfl (.of_not rfl rfl)
  | @attachAccept s1apbuf ue hhandling _ _ hue =>
    have hsaid : (m.say (.attachAccept m.ue.sm)).Guards := hm.say rfl (.of_not rfl rfl)
    have hmac : ue.macFailed = m.ue.macFailed := by
      rcases hue with hsame | havailable
      · exact congrArg (fun ue => ue.macFailed) hsame
      · exact congrArg (fun ue => ue.macFailed) havailable
    have hchanged : ({ m.say (.attachAccept m.ue.sm) with ue := ue } : Mme).Guards :=
      hsaid.keep rfl fun h => hmac.trans h
    refine hchanged.say rfl (.of_verified rfl fun h hcause _ => ?_)
    cases hcause.symm.trans hhandling
  | initialContextSetupRequest hwhy =>
    refine hm.say rfl (.of_verified rfl fun h hcause _ => ?_)
    cases hwhy with
    | serviceRequest hcontinues =>
      rw [hcontinues.handling] at hcause
      cases hcause
      exact hm.continues hcontinues hcond.2
    | request hcontinues =>
      rw [hcontinues.handling] at hcause
      cases hcause
      exact hm.continues hcontinues hcond.2
    | updateLocation hhandling =>
      rw [hhandling] at hcause
      cases hcause
  | ueContextModificationRequest hcontinues =>
    refine hm.say rfl (.of_verified rfl fun h hcause _ => ?_)
    rw [hcontinues.handling] at hcause
    cases hcause
    exact hm.continues hcontinues hcond.2
  | @emmToEsm queue hwhy =>
    have hqueued : ({ m with queue := queue } : Mme).Guards := hm.keep rfl id
    refine hqueued.say rfl (.of_verified rfl fun h hcause hcontext => ?_)
    change h ∈ m.handling at hcause
    rcases hwhy with hhandling | ⟨h', hcontinues | hcompletes⟩
    · rw [hhandling] at hcause
      cases hcause
    · rw [hcontinues.handling] at hcause
      cases hcause
      exact hm.continues hcontinues hcond.2
    · rw [hcompletes.handling] at hcause
      cases hcause
      obtain ⟨calls, past, hlog⟩ := hcompletes.log
      obtain ⟨container, hbody⟩ := hcompletes.body
      have hpasses : h.PassesUnchecked :=
        Or.inl ⟨hcompletes.sm, by rw [EmmMessage.isAttachComplete, hbody]⟩
      exact Mme.Guards.unchecked hcond.2 hlog hpasses hcontext
  | tauAccept hwhy =>
    refine hm.say rfl (.of_verified rfl fun h hcause _ => ?_)
    rcases hwhy with hhandling | ⟨h', hcontinues⟩
    · rw [hhandling] at hcause
      cases hcause
    · rw [hcontinues.handling] at hcause
      cases hcause
      exact hm.continues hcontinues hcond.2

/-- A registered UE is detached by a Detach Request. -/
theorem Mme.Enters.gate (henters : m.Enters target)
    (htarget : target = .deRegistered ∨ target = .exception)
    (hcond : History.Always MmeLog.GateInOrder m.log) :
    MmeLog.Gate ⟨m.handling, .tran m.log.emmState target⟩ m.log := by
  cases henters with
  | deRegistered hdetach =>
    refine ⟨fun hgated h hcause hcontext => ?_, fun origin h => nomatch h⟩
    have hregistered : m.log.emmState = .registered := by
      cases hstate : m.log.emmState with
      | registered => rfl
      | _ =>
        rw [hstate] at hgated
        cases hgated
    obtain ⟨h', calls, past, hhandling, hsm, ⟨detachType, hbody⟩, hlog⟩ := hdetach hregistered
    dsimp only at hcause
    rw [hhandling] at hcause
    cases hcause
    have hpasses : h.PassesUnchecked :=
      Or.inr ⟨hsm, by rw [EmmMessage.isDetachRequest, hbody]⟩
    exact Mme.Guards.unchecked hcond hlog hpasses hcontext
  | exception =>
    apply MmeLog.Gate.of_not _ rfl
    cases m.log.emmState <;> rfl
  | authentication | securityMode | attach | attachComplete =>
    rcases htarget with h | h <;> cases h
  | complete hcomplete =>
    rcases hcomplete with rfl | rfl <;> rcases htarget with h | h <;> cases h

theorem MmeMove.guards (hmove : MmeMove cfg m m') (hm : m.Guards)
    (hcond : History.Always MmeLog.GateInOrder m'.log) : m'.Guards := by
  cases hmove with
  | op hop => exact hop.guards hm hcond
  | enbUes | queue | pendingAirs | handled => exact hm.keep rfl id
  | decodeAgain =>
    refine hm.keep rfl fun hmac => ?_
    dsimp only
    rw [hmac]
    rfl
  | decode _ hdecodes => exact hm.decode hdecodes
  | message | kdfNh => exact hm.add rfl (fun _ h => h) rfl (.of_not rfl rfl)
  | esmMessage =>
    have hesm := hcond.1.esm
    exact hm.say rfl ⟨(fun h => nomatch h),
      fun origin horigin hvalid => (hesm origin horigin hvalid).verified⟩
  | @aia id vector =>
    have hmac : (m.ue.storeVector vector).macFailed = m.ue.macFailed := by
      dsimp only [MmeUe.storeVector]
    exact hm.stored hmac
  | enter _ htarget =>
    refine hm.say rfl (.of_not ?_ rfl)
    rcases htarget with rfl | rfl | rfl <;> cases m.log.emmState <;> rfl
  | @leave target henters htarget =>
    have hsaid : (m.say (.tran m.log.emmState target)).Guards :=
      hm.say rfl (henters.gate htarget hcond.2)
    exact hsaid.keep rfl id
  | enterSecurityMode =>
    have htran : (m.say (.tran .authentication .securityMode)).Guards := hm.say rfl (.of_not rfl rfl)
    exact htran.add rfl (fun _ h => h) rfl (.of_not rfl rfl)
  | attachAgain =>
    have hair : (mmeS6aSendAir m).Guards :=
      hm.add rfl (fun hair => nomatch hair) rfl (.of_not rfl rfl)
    have htran : ((mmeS6aSendAir m).fsmTran .authentication).Guards := hair.keep rfl id
    exact htran.say rfl (.of_not rfl rfl)

end

instance (pdu : Bytes) : Decidable (NasIntegrityProtected pdu) :=
  inferInstanceAs (Decidable (∃ _ ∈ _, _))

instance (algorithm : UInt8) : Decidable (NasIntegrityAlgorithm algorithm) :=
  inferInstanceAs (Decidable (_ ∨ _))

instance (past : MmeLog) (pdu : Bytes) (ue : MmeUe) : Decidable (past.CodeSinceAir pdu ue) :=
  decidable_of_iff
    (NasIntegrityProtected pdu ∧ ue.securityContextAvailable = true ∧
      NasIntegrityAlgorithm ue.selectedIntAlgorithm ∧
      ∃ i ∈ past.sinceAir, i.call.decode? = some (ue, pdu))
    ⟨fun h => ⟨h.1, h.2.1, h.2.2.1, h.2.2.2⟩,
      fun h => ⟨h.isProtected, h.available, h.algorithm, h.decoded⟩⟩

/-- Requests have a code that is checked, and no other message is granted in a valid
context. -/
def MmeLog.OnlyRequests (item : MmeLogItem) (past : MmeLog) : Prop :=
  (item.call = .emmMessage → ∀ h ∈ item.cause,
    (h.InRegisterState → h.message.isRequest = true → h.ue.securityContextAvailable = true →
      h.ue.macFailed = false →
      ∃ p ∈ h.event.origin.decoded, past.CodeSinceAir h.event.origin.pdu p.1) ∧
      ¬(h.PassesUnchecked ∧ h.InContext)) ∧
    ∀ origin ∈ item.call.esmMessage?, ¬origin.CameValid

instance (item : MmeLogItem) (past : MmeLog) : Decidable (MmeLog.OnlyRequests item past) :=
  inferInstanceAs (Decidable (_ ∧ _))

theorem MmeLog.OnlyRequests.gateInOrder [OgsCrypt] {item : MmeLogItem} {past : MmeLog}
    (h : OnlyRequests item past) : GateInOrder item past where
  request hcall h' hcause := (h.1 hcall h' hcause).1
  unchecked hcall h' hcause hpasses hcontext :=
    absurd ⟨hpasses, hcontext⟩ (h.1 hcall h' hcause).2
  esm origin horigin hvalid := absurd hvalid (h.2 origin horigin)

/-- During the attach the UE detaches itself, and it attaches again with a message that is
protected. -/
def sampleAttachAgain : List MmeLabel :=
  sampleSecurityMode ++ sampleUplink [0x27, 9, 9, 9, 8, 1, 0x07, 0x45, 0x01] ++
    sampleUplink [0x17, 9, 9, 9, 11, 2, 0x07, 0x41, 0x01, 0x08, 0x29, 0x26, 0x24, 0x00, 0x00,
      0x00, 0x00, 0x10, 0x02, 0xe0, 0xe0, 0x00, 0x05, 0x02, 0x01, 0xd0, 0x11, 0xd1]

/-- The registered UE is detached by a message without a code. -/
def samplePlainDetach : List MmeLabel :=
  sampleAccept ++ sampleUplink [0x27, 9, 9, 9, 8, 1, 0x07, 0x43, 0, 1, 0x52] ++
    [.message {} none] ++ sampleUplink [0x07, 0x45, 0x01]

/-- In a valid context what a message causes is gated by a header type with a code. -/
def MmeLog.GateProtected (item : MmeLogItem) (_past : MmeLog) : Prop :=
  item.call.isGated = true → ∀ h ∈ item.cause, h.InContext →
    NasIntegrityProtected h.event.origin.pdu

instance (item : MmeLogItem) (past : MmeLog) : Decidable (MmeLog.GateProtected item past) :=
  inferInstanceAs (Decidable (_ → _))

theorem NasChecked.isProtected [OgsCrypt] {ue : MmeUe} {pdu : Bytes} {count : UlCount}
    {ok : Bool} (h : NasChecked ue pdu count ok) : NasIntegrityProtected pdu := by
  cases h with
  | message htype =>
    rw [nasMessageOctets_eq_cons]
    exact ⟨_, rfl, Or.inl htype⟩
  | serviceRequest hfirst => exact ⟨_, rfl, Or.inr hfirst⟩

theorem MmeLog.Gate.isProtected [OgsCrypt] {item : MmeLogItem} {past : MmeLog}
    (hg : Gate item past) : GateProtected item past := by
  intro hgated h hcause hcontext
  obtain ⟨p, _, count, hchecked⟩ := hg.message hgated h hcause hcontext
  exact hchecked.isProtected

end NextEpc

import NextEpc.Mme.EmmMoves

/-!
# Authentication

The machine goes from `emm_state_authentication` to `emm_state_security_mode` when the octets
of a RES agree with the context from `xres` on. The length is the one that the UE sends, and
the vector is the one that happens to be stored.
-/

namespace NextEpc

/-- The fields that an Authentication-Information-Answer stores. -/
def MmeUe.vector (ue : MmeUe) : Octets16 × UInt8 × Octets32 × Octets16 :=
  (ue.xres, ue.xresLen, ue.kasme, ue.rand)

/-- The context holds a vector. -/
structure MmeUe.Holds (ue : MmeUe) (vector : EUtranVector) : Prop where
  len : vector.xres.length ≤ 16
  xres : ue.xres.toList.take vector.xres.length = vector.xres
  xresLen : ue.xresLen = UInt8.ofNat vector.xres.length
  kasme : ue.kasme = vector.kasme
  rand : ue.rand = vector.rand

instance (ue : MmeUe) (vector : EUtranVector) : Decidable (ue.Holds vector) :=
  decidable_of_iff (vector.xres.length ≤ 16 ∧ ue.xres.toList.take vector.xres.length = vector.xres ∧
      ue.xresLen = UInt8.ofNat vector.xres.length ∧ ue.kasme = vector.kasme ∧
      ue.rand = vector.rand)
    ⟨fun h => ⟨h.1, h.2.1, h.2.2.1, h.2.2.2.1, h.2.2.2.2⟩,
      fun h => ⟨h.len, h.xres, h.xresLen, h.kasme, h.rand⟩⟩

namespace MmeLog

/-- A transition to `emm_state_security_mode` is caused by a RES that is the XRES received
from the HSS. -/
def Authenticates (item : MmeLogItem) (past : MmeLog) : Prop :=
  item.call = .tran .authentication .securityMode →
    ∃ h ∈ item.cause, ∃ vector ∈ latestAia past,
      h.message.body = .authenticationResponse vector.xres

instance (item : MmeLogItem) (past : MmeLog) : Decidable (Authenticates item past) :=
  inferInstanceAs (Decidable (_ → _))

end MmeLog

/-- The RES of an Authentication Response. -/
def EmmBody.res? : EmmBody → Option Bytes
  | authenticationResponse res => some res
  | _ => none

/-- The RES of a message that agrees with the octets it is compared with. -/
def MmeLogItem.acceptedRes? (item : MmeLogItem) : Option Bytes :=
  match item.cause, item.call with
  | some h, .emmMessage =>
    if h.ue.sm = .authentication then
      h.message.body.res?.filter fun res => h.ue.resEqual h.tail res
    else none
  | _, _ => none

namespace MmeLog

/-- A RES that agrees with the octets it is compared with comes after a vector and has the
length of its XRES. -/
def ResHasXresLength (item : MmeLogItem) (past : MmeLog) : Prop :=
  ∀ res ∈ item.acceptedRes?, ∃ vector ∈ latestAia past, res.length = vector.xres.length

instance (item : MmeLogItem) (past : MmeLog) : Decidable (ResHasXresLength item past) :=
  inferInstanceAs (Decidable (∀ _ ∈ _, _))

end MmeLog

section
variable [OgsCrypt] {ue ue' : MmeUe} {vector : EUtranVector} {cfg : MmeConfig} {m m' : Mme}
  {h : Handling} {res tail : Bytes} {past : MmeLog}

omit [OgsCrypt] in
theorem MmeUe.Holds.congr (hv : ue.Holds vector) (hue : ue'.vector = ue.vector) :
    ue'.Holds vector where
  len := hv.len
  xres := by
    rw [show ue'.xres = ue.xres from congrArg Prod.fst hue]
    exact hv.xres
  xresLen := (congrArg (fun v => v.2.1) hue).trans hv.xresLen
  kasme := (congrArg (fun v => v.2.2.1) hue).trans hv.kasme
  rand := (congrArg (fun v => v.2.2.2) hue).trans hv.rand

omit [OgsCrypt] in
theorem MmeUe.vector_of_security (hue : ue'.security = ue.security) : ue'.vector = ue.vector := by
  have hvector := congrArg MmeUe.vector hue
  exact hvector

omit [OgsCrypt] in
theorem Mme.vector_stored {id : Nat} {pendingAirs : List Nat} :
    (m.stored ue id vector pendingAirs).ue.vector = ue.vector := rfl

omit [OgsCrypt] in
theorem MmeUe.storeVector_holds (hlen : vector.xres.length ≤ 16) :
    (ue.storeVector vector).Holds vector where
  len := hlen
  xres := by
    apply List.ext_getElem
    · simp [hlen]
    · intro i hi hi'
      simp [MmeUe.storeVector, MmeUe.storeXres, List.getD_eq_getElem?_getD,
        List.getElem?_eq_getElem hi']
  xresLen := rfl
  kasme := rfl
  rand := rfl

omit [OgsCrypt] in
/-- A RES of the right length that agrees with the octets from `xres` on is the XRES. -/
theorem MmeUe.Holds.eq_xres (hv : ue.Holds vector) (hequal : ue.resEqual tail res = true)
    (hlen : res.length = vector.xres.length) : res = vector.xres := by
  have hpre : res <+: ue.octetsFromXres ++ tail := List.isPrefixOf_iff_prefix.mp hequal
  have hroom : vector.xres.length ≤ ue.xres.toList.length := by
    rw [Vector.length_toList]
    exact hv.len
  calc res = (ue.octetsFromXres ++ tail).take vector.xres.length := by
        rw [← hlen]
        exact List.prefix_iff_eq_take.mp hpre
    _ = ue.xres.toList.take vector.xres.length := by
        simp only [MmeUe.octetsFromXres, List.append_assoc]
        exact List.take_append_of_le_length hroom
    _ = vector.xres := hv.xres

theorem MmeOp.keepsVector (hop : MmeOp m m') :
    m'.ue.vector = m.ue.vector ∧ m'.log.latestAia = m.log.latestAia := by
  cases hop with
  | keep hue => exact ⟨MmeUe.vector_of_security hue.security, rfl⟩
  | attachAccept _ _ _ hue =>
    refine ⟨?_, rfl⟩
    rcases hue with hsame | havailable
    · exact MmeUe.vector_of_security hsame
    · exact (MmeUe.vector_of_security havailable).trans rfl
  | _ => exact ⟨rfl, rfl⟩

/-- The vector changes with an Authentication-Information-Answer only. -/
theorem MmeMove.keepsVector (hmove : MmeMove cfg m m') :
    (m'.ue.vector = m.ue.vector ∧ m'.log.latestAia = m.log.latestAia) ∨
      ∃ id vector pendingAirs, vector.xres.length ≤ 16 ∧
        m' = m.stored (m.ue.storeVector vector) id vector pendingAirs := by
  cases hmove with
  | op hop => exact Or.inl hop.keepsVector
  | decode _ hdecodes =>
    obtain ⟨ulCount, failed, rfl⟩ := hdecodes.shape
    exact Or.inl ⟨rfl, rfl⟩
  | aia _ _ hlen => exact Or.inr ⟨_, _, _, hlen, rfl⟩
  | _ => exact Or.inl ⟨rfl, rfl⟩

/-- The vector of the last answer is the one that is held. -/
def Mme.HoldsLatest (m : Mme) : Prop :=
  ∀ vector ∈ m.log.latestAia, m.ue.Holds vector

theorem Mme.HoldsLatest.move (hm : m.HoldsLatest) (hmove : MmeMove cfg m m') :
    m'.HoldsLatest := by
  intro vector hvector
  rcases hmove.keepsVector with ⟨hsame, haia⟩ | ⟨id, stored, pendingAirs, hlen, rfl⟩
  · rw [haia] at hvector
    exact (hm vector hvector).congr hsame
  · cases hvector
    exact (MmeUe.storeVector_holds hlen).congr Mme.vector_stored

/-- What the proofs about the authentication gate carry along. -/
structure Mme.Gated (m : Mme) : Prop where
  holds : m.HoldsLatest
  authenticates : History.Always MmeLog.Authenticates m.log

omit [OgsCrypt] in
theorem MmeLogItem.acceptedRes?_emmMessage (hsm : h.ue.sm = .authentication)
    (hbody : h.message.body = .authenticationResponse res)
    (hequal : h.ue.resEqual h.tail res = true) :
    MmeLogItem.acceptedRes? ⟨some h, .emmMessage⟩ = some res := by
  simp [acceptedRes?, hsm, hbody, EmmBody.res?, hequal]

omit [OgsCrypt] in
/-- The transition to `emm_state_security_mode`, when the RES has the length of the XRES. -/
theorem Mme.HoldsLatest.authenticates (hm : m.HoldsLatest) (henters : m.Enters .securityMode)
    (hcond : History.Always MmeLog.ResHasXresLength m.log) :
    ∃ h ∈ m.handling, ∃ vector ∈ m.log.latestAia,
      h.message.body = .authenticationResponse vector.xres := by
  cases henters with
  | complete htarget => rcases htarget with heq | heq <;> cases heq
  | @securityMode h res past hhandling _ hsm hbody hequal hue hlog =>
    rw [hlog] at hcond
    obtain ⟨vector, hvector, hlen⟩ :=
      hcond.1 res (MmeLogItem.acceptedRes?_emmMessage hsm hbody hequal)
    have haia : vector ∈ m.log.latestAia := by
      rw [hlog]
      exact hvector
    have hholds : h.ue.Holds vector := (hm vector haia).congr (by rw [hue]; rfl)
    refine ⟨h, hhandling, vector, haia, ?_⟩
    rw [hbody, hholds.eq_xres hequal hlen]

theorem MmeOp.authenticates (hop : MmeOp m m')
    (hm : History.Always MmeLog.Authenticates m.log) :
    History.Always MmeLog.Authenticates m'.log := by
  cases hop with
  | keep | protect => exact hm
  | attachAccept => exact ⟨(fun h => nomatch h), (fun h => nomatch h), hm⟩
  | _ => exact ⟨(fun h => nomatch h), hm⟩

theorem Mme.Gated.move (hm : m.Gated) (hmove : MmeMove cfg m m')
    (hcond : History.Always MmeLog.ResHasXresLength m'.log) : m'.Gated := by
  refine ⟨hm.holds.move hmove, ?_⟩
  cases hmove with
  | op hop => exact hop.authenticates hm.authenticates
  | enter _ htarget =>
    refine ⟨fun htran => ?_, hm.authenticates⟩
    injection htran with _ hsecurityMode
    rcases htarget with heq | heq | heq <;> cases hsecurityMode.symm.trans heq
  | leave _ htarget =>
    refine ⟨fun htran => ?_, hm.authenticates⟩
    injection htran with _ hsecurityMode
    rcases htarget with heq | heq <;> cases hsecurityMode.symm.trans heq
  | enterSecurityMode _ _ henters =>
    refine ⟨(fun h => nomatch h), fun _ => ?_, hm.authenticates⟩
    exact hm.holds.authenticates henters hcond.2.2
  | attachAgain =>
    exact ⟨(fun h => nomatch h), (fun h => nomatch h), hm.authenticates⟩
  | enbUes | queue | pendingAirs | decodeAgain | handled => exact hm.authenticates
  | _ => exact ⟨(fun h => nomatch h), hm.authenticates⟩

/-- If each RES that agrees with the stored octets has the length of the XRES received
from the HSS, the state is left only for a RES that is this XRES. -/
theorem authenticates_of_resHasXresLength [NasDecoder] (hinitial : m.Initial)
    (hreaches : Lts.Reaches (Mme.Step cfg) m m')
    (hcond : History.Always MmeLog.ResHasXresLength m'.log) :
    History.Always MmeLog.Authenticates m'.log := by
  have hgated : m.Gated := by
    refine ⟨fun vector hvector => ?_, ?_⟩
    · rw [hinitial.log] at hvector
      cases hvector
    · rw [hinitial.log]
      trivial
  have hafter : m'.Gated := hinitial.invariant (fun _ _ hm hmove hlog => hm.move hmove hlog)
    hgated hreaches hcond
  exact hafter.authenticates

end

/-- A UE answers with the XRES. -/
def sampleResponse : List MmeLabel :=
  sampleAttach ++ sampleUplink [0x07, 0x53, 8, 1, 2, 3, 4, 5, 6, 7, 8]

theorem authenticates_sampleResponse :
    let _ := OgsCrypt.reference
    let _ := NasDecoder.reference
    History.Always MmeLog.Authenticates (sampleRun sampleResponse).log :=
  @authenticates_of_resHasXresLength OgsCrypt.reference sampleConfig sampleMme _
    NasDecoder.reference sampleMme_initial
    (@sampleRun_reaches OgsCrypt.reference NasDecoder.reference _ (by decide +kernel))
    (by decide +kernel)

/-- A UE answers with a RES of length zero. -/
def sampleEmptyResponse : List MmeLabel := sampleAttach ++ sampleUplink [0x07, 0x53, 0]

/-- A RES of length zero is accepted. -/
theorem authenticates_empty :
    let _ := OgsCrypt.reference
    let _ := NasDecoder.reference
    ¬∀ m m' : Mme, m.Initial → Lts.Reaches (Mme.Step sampleConfig) m m' →
      History.Always MmeLog.Authenticates m'.log := by
  intro crypt decoder hclaim
  have hreaches := @sampleRun_reaches OgsCrypt.reference NasDecoder.reference
    sampleEmptyResponse (by decide +kernel)
  have hlog := hclaim sampleMme _ sampleMme_initial hreaches
  exact absurd hlog (by decide +kernel)

/-! ## A vector is accepted once -/

/-- Two vectors have the same RAND, XRES and KASME. -/
def EUtranVector.Same (vector vector' : EUtranVector) : Prop :=
  vector.rand = vector'.rand ∧ vector.xres = vector'.xres ∧ vector.kasme = vector'.kasme

instance (vector vector' : EUtranVector) : Decidable (vector.Same vector') :=
  inferInstanceAs (Decidable (_ ∧ _))

namespace MmeCall

def air? : MmeCall → Option Nat
  | air id => some id
  | _ => none

def aiaId? : MmeCall → Option Nat
  | aia id _ => some id
  | _ => none

/-- After these calls an Authentication Request that was sent before does not count. -/
def overtakes : MmeCall → Bool
  | tran _ _ | air _ | aia _ _ => true
  | _ => false

def isAuthenticationRequest : MmeCall → Bool
  | authenticationRequest _ _ => true
  | _ => false

end MmeCall

namespace MmeLog

/-- The last Authentication-Information-Request has been answered. -/
def Answered (log : MmeLog) : Prop :=
  ∃ id ∈ History.latest (fun item => item.call.air?) log, ∃ item ∈ log, item.call.aiaId? = some id

/-- What has happened since the last call that overtakes an Authentication Request. -/
def sinceOvertaken (log : MmeLog) : MmeLog := History.since (fun item => item.call.overtakes) log

/-- An Authentication Request has been sent since the last transition, the last
Authentication-Information-Request and the last answer to one. -/
def Requested (log : MmeLog) : Prop :=
  ∃ item ∈ sinceOvertaken log, item.call.isAuthenticationRequest = true

/-- The vectors that were stored when `emm_state_security_mode` was entered. -/
def accepted : MmeLog → List EUtranVector
  | [] => []
  | item :: past =>
    if item.call = .tran .authentication .securityMode then
      (latestAia past).toList ++ accepted past
    else accepted past

/-- A transition to `emm_state_security_mode` is caused by a response to an Authentication
Request for the stored vector that was sent in this stay, and the vector has not been accepted
before. -/
def AcceptsOnce (item : MmeLogItem) (past : MmeLog) : Prop :=
  item.call = .tran .authentication .securityMode →
    ∃ h ∈ item.cause, ∃ vector ∈ latestAia past, h.message.body.res?.isSome = true ∧
      h.ue.Holds vector ∧
      (∃ item ∈ stay past, item.call = .authenticationRequest vector.rand vector.autn) ∧
      Answered past ∧ ∀ earlier ∈ accepted past, ¬earlier.Same vector

/-- A RES that agrees with the octets it is compared with comes after the answer to the last
Authentication-Information-Request, when an Authentication Request has been sent; and no
vector comes twice from the HSS. -/
def ResponseInOrder (item : MmeLogItem) (past : MmeLog) : Prop :=
  (∀ _res ∈ item.acceptedRes?, Requested past ∧ Answered past) ∧
    ∀ vector ∈ item.call.aia?, ∀ item ∈ past, ∀ earlier ∈ item.call.aia?, ¬earlier.Same vector

instance (log : MmeLog) : Decidable (Answered log) := inferInstanceAs (Decidable (∃ _ ∈ _, _))

instance (log : MmeLog) : Decidable (Requested log) := inferInstanceAs (Decidable (∃ _ ∈ _, _))

instance (item : MmeLogItem) (past : MmeLog) : Decidable (AcceptsOnce item past) :=
  inferInstanceAs (Decidable (_ → _))

instance (item : MmeLogItem) (past : MmeLog) : Decidable (ResponseInOrder item past) :=
  inferInstanceAs (Decidable (_ ∧ _))

/-- The vector of an Authentication Request is the last one that was received, and it has not
been accepted. -/
def Offered (log : MmeLog) (rand autn : Octets16) : Prop :=
  ∃ vector ∈ latestAia log, vector.rand = rand ∧ vector.autn = autn ∧
    ∀ earlier ∈ accepted log, ¬earlier.Same vector

/-- Authentication Requests that count, and one that is kept for T3460, are for this
vector. -/
structure Offers (log : MmeLog) (pkbuf : Option T3460Message) : Prop where
  kept : ∀ rand autn, pkbuf = some (.authenticationRequest rand autn) → Offered log rand autn
  sent : ∀ item ∈ sinceOvertaken log, ∀ rand autn,
    item.call = .authenticationRequest rand autn → Offered log rand autn

variable {log : MmeLog} {pkbuf pkbuf' : Option T3460Message} {cause : Option Handling}
  {call : MmeCall} {rand autn : Octets16} {vector : EUtranVector}

theorem sinceOvertaken_cons_of (h : call.overtakes = true) :
    sinceOvertaken (⟨cause, call⟩ :: log) = [] :=
  History.since_cons_of h

theorem sinceOvertaken_cons (h : call.overtakes = false) :
    sinceOvertaken (⟨cause, call⟩ :: log) = ⟨cause, call⟩ :: sinceOvertaken log :=
  History.since_cons_of_not h

theorem mem_of_mem_accepted (h : vector ∈ accepted log) :
    ∃ item ∈ log, item.call.aia? = some vector := by
  induction log with
  | nil => exact absurd h List.not_mem_nil
  | cons item past ih =>
    have hpast : vector ∈ accepted past → ∃ item' ∈ item :: past, item'.call.aia? = some vector := by
      intro hmem
      obtain ⟨item', hitem', haia⟩ := ih hmem
      exact ⟨item', List.mem_cons_of_mem item hitem', haia⟩
    unfold accepted at h
    split at h
    · rcases List.mem_append.mp h with hlatest | hmem
      · obtain ⟨newer, item', older, hlog, haia, -⟩ :=
          History.latest_eq_some_iff.mp (Option.mem_toList.mp hlatest)
        refine ⟨item', ?_, haia⟩
        rw [hlog]
        exact List.mem_cons_of_mem item (List.mem_append_right newer List.mem_cons_self)
      · exact hpast hmem
    · exact hpast h

theorem accepted_cons (h : call ≠ .tran .authentication .securityMode) :
    accepted (⟨cause, call⟩ :: log) = accepted log :=
  if_neg h

theorem Offered.cons (h : Offered log rand autn) (haia : call.aia? = none)
    (htran : call ≠ .tran .authentication .securityMode) :
    Offered (⟨cause, call⟩ :: log) rand autn := by
  unfold Offered
  rw [latestAia_cons haia, accepted_cons htran]
  exact h

theorem Offers.keep (h : Offers log pkbuf) (hpkbuf : pkbuf' = pkbuf ∨ pkbuf' = none) :
    Offers log pkbuf' where
  kept rand autn hsome := by
    rcases hpkbuf with rfl | rfl
    · exact h.kept rand autn hsome
    · cases hsome
  sent := h.sent

theorem Offers.add (h : Offers log pkbuf) (haia : call.aia? = none)
    (htran : call ≠ .tran .authentication .securityMode)
    (hrequest : ∀ rand autn, call = .authenticationRequest rand autn → Offered log rand autn) :
    Offers (⟨cause, call⟩ :: log) pkbuf where
  kept rand autn hsome := (h.kept rand autn hsome).cons haia htran
  sent item hitem rand autn hcall := by
    apply Offered.cons _ haia htran
    cases hovertakes : call.overtakes with
    | true =>
      rw [sinceOvertaken_cons_of hovertakes] at hitem
      exact absurd hitem List.not_mem_nil
    | false =>
      rw [sinceOvertaken_cons hovertakes] at hitem
      rcases List.mem_cons.mp hitem with rfl | hitem
      · exact hrequest rand autn hcall
      · exact h.sent item hitem rand autn hcall

/-- A call that has nothing to do with requests and transitions. -/
theorem Offers.cons (h : Offers log pkbuf) (haia : call.aia? = none)
    (htarget : call.target? = none) (hrequest : call.isAuthenticationRequest = false) :
    Offers (⟨cause, call⟩ :: log) pkbuf := by
  apply h.add haia
  · intro heq
    rw [heq] at htarget
    cases htarget
  · intro rand autn heq
    rw [heq] at hrequest
    cases hrequest

/-- The kept Authentication Request is sent. -/
theorem Offers.request (h : Offers log (some (.authenticationRequest rand autn))) :
    Offers (⟨cause, .authenticationRequest rand autn⟩ :: log)
      (some (.authenticationRequest rand autn)) := by
  apply h.add rfl
  · intro heq
    cases heq
  · intro rand' autn' heq
    cases heq
    exact h.kept _ _ rfl

/-- A transition to another state. -/
theorem Offers.tran {source target : EmmState} (h : Offers log pkbuf)
    (htarget : target ≠ .securityMode) : Offers (⟨cause, .tran source target⟩ :: log) pkbuf := by
  apply h.add rfl
  · intro heq
    injection heq with _ heq
    exact htarget heq
  · intro rand autn heq
    cases heq

/-- An answer of the HSS with a vector that did not come before. -/
theorem Offers.aia {id : Nat}
    (hfresh : ∀ item ∈ log, ∀ earlier ∈ item.call.aia?, ¬earlier.Same vector) :
    Offers (⟨cause, .aia id vector⟩ :: log)
      (some (.authenticationRequest vector.rand vector.autn)) where
  kept rand autn hsome := by
    cases hsome
    refine ⟨vector, latestAia_aia, rfl, rfl, fun earlier hearlier => ?_⟩
    have hne : MmeCall.aia id vector ≠ .tran .authentication .securityMode := fun h => nomatch h
    rw [accepted_cons hne] at hearlier
    obtain ⟨item, hitem, haia⟩ := mem_of_mem_accepted hearlier
    exact hfresh item hitem earlier haia
  sent item hitem := by
    rw [sinceOvertaken_cons_of rfl] at hitem
    exact absurd hitem List.not_mem_nil

/-- Right after `emm_state_security_mode` was entered nothing is offered. -/
theorem Offers.securityMode {kasme : Octets32} {knasInt : Octets16} {pdu : Bytes} :
    Offers (⟨cause, .securityModeCommand kasme knasInt⟩ ::
      ⟨cause, .tran .authentication .securityMode⟩ :: log) (some (.securityModeCommand pdu)) where
  kept _ _ hsome := by cases hsome
  sent item hitem rand autn hcall := by
    rw [sinceOvertaken_cons rfl, sinceOvertaken_cons_of rfl] at hitem
    rw [List.mem_singleton.mp hitem] at hcall
    cases hcall

end MmeLog

section
variable [OgsCrypt] {cfg : MmeConfig} {m m' : Mme} {h : Handling} {past : MmeLog}

/-- What the proofs about single use carry along. -/
structure Mme.Fresh (m : Mme) : Prop where
  holds : m.HoldsLatest
  offers : m.log.Offers m.ue.t3460.pkbuf
  acceptsOnce : History.Always MmeLog.AcceptsOnce m.log

theorem MmeOp.offers (hop : MmeOp m m') (hm : m.log.Offers m.ue.t3460.pkbuf) :
    m'.log.Offers m'.ue.t3460.pkbuf := by
  cases hop with
  | keep hue => exact hm.keep hue.t3460
  | protect => exact hm
  | authenticationRequest hpkbuf =>
    rw [hpkbuf] at hm
    change MmeLog.Offers _ m.ue.t3460.pkbuf
    rw [hpkbuf]
    exact hm.request
  | attachAccept _ _ _ _ _ ht3460 =>
    have hkept := hm.keep (Or.inl (congrArg MmeTimer.pkbuf ht3460))
    exact (hkept.cons rfl rfl rfl).cons rfl rfl rfl
  | _ => exact hm.cons rfl rfl rfl

theorem MmeOp.acceptsOnce (hop : MmeOp m m')
    (hm : History.Always MmeLog.AcceptsOnce m.log) :
    History.Always MmeLog.AcceptsOnce m'.log := by
  cases hop with
  | keep | protect => exact hm
  | attachAccept => exact ⟨(fun h => nomatch h), (fun h => nomatch h), hm⟩
  | _ => exact ⟨(fun h => nomatch h), hm⟩

omit [OgsCrypt] in
theorem MmeLog.Answered.emmMessage {cause : Option Handling} (ha : past.Answered) :
    MmeLog.Answered (⟨cause, .emmMessage⟩ :: past) := by
  obtain ⟨id, hid, item, hitem, haia⟩ := ha
  refine ⟨id, ?_, item, List.mem_cons_of_mem _ hitem, haia⟩
  rw [History.latest_cons_of_none rfl]
  exact hid

omit [OgsCrypt] in
/-- The transition to `emm_state_security_mode`, when the response comes in order. -/
theorem Mme.Fresh.accepts (hm : m.Fresh) (henters : m.Enters .securityMode)
    (hcond : History.Always MmeLog.ResponseInOrder m.log) :
    ∃ h ∈ m.handling, ∃ vector ∈ m.log.latestAia, h.message.body.res?.isSome = true ∧
      h.ue.Holds vector ∧
      (∃ item ∈ m.log.stay, item.call = .authenticationRequest vector.rand vector.autn) ∧
      m.log.Answered ∧ ∀ earlier ∈ m.log.accepted, ¬earlier.Same vector := by
  cases henters with
  | complete htarget => rcases htarget with heq | heq <;> cases heq
  | @securityMode h res past hhandling _ hsm hbody hequal hue hlog =>
    have hresponse := hcond
    rw [hlog] at hresponse
    obtain ⟨⟨item, hitem, hrequest⟩, hanswered⟩ := hresponse.1.1 res
      (MmeLogItem.acceptedRes?_emmMessage hsm hbody hequal)
    have hsince : item ∈ m.log.sinceOvertaken := by
      rw [hlog, MmeLog.sinceOvertaken_cons rfl]
      exact List.mem_cons_of_mem _ hitem
    have hstay : item ∈ m.log.stay := by
      refine History.since_subset (fun item hitem => ?_) hsince
      cases hcall : item.call with
      | tran => rfl
      | _ =>
        rw [hcall] at hitem
        cases hitem
    obtain ⟨rand, autn, hcall⟩ : ∃ rand autn, item.call = .authenticationRequest rand autn := by
      cases hcall : item.call with
      | authenticationRequest rand autn => exact ⟨rand, autn, rfl⟩
      | _ =>
        rw [hcall] at hrequest
        cases hrequest
    obtain ⟨vector, haia, rfl, rfl, hnew⟩ := hm.offers.sent item hsince rand autn hcall
    have hholds : h.ue.Holds vector := (hm.holds vector haia).congr (by rw [hue]; rfl)
    refine ⟨h, hhandling, vector, haia, ?_, hholds, ⟨item, hstay, hcall⟩, ?_, hnew⟩
    · rw [hbody]
      rfl
    · rw [hlog]
      exact hanswered.emmMessage

theorem Mme.Fresh.move (hm : m.Fresh) (hmove : MmeMove cfg m m')
    (hcond : History.Always MmeLog.ResponseInOrder m'.log) : m'.Fresh := by
  refine ⟨hm.holds.move hmove, ?_, ?_⟩
  · cases hmove with
    | op hop => exact hop.offers hm.offers
    | enbUes | queue | pendingAirs | decodeAgain | handled => exact hm.offers
    | decode _ hdecodes =>
      obtain ⟨ulCount, failed, rfl⟩ := hdecodes.shape
      exact hm.offers.cons rfl rfl rfl
    | aia => exact MmeLog.Offers.aia (hcond.1.2 _ rfl)
    | enter _ htarget =>
      apply hm.offers.tran
      rintro rfl
      rcases htarget with h | h | h <;> cases h
    | leave _ htarget =>
      apply (hm.offers.keep (Or.inr rfl)).tran
      rintro rfl
      rcases htarget with h | h <;> cases h
    | enterSecurityMode => exact MmeLog.Offers.securityMode
    | attachAgain =>
      have hair : MmeLog.Offers (⟨m.handling, .air m.airs⟩ :: m.log) m.ue.t3460.pkbuf :=
        hm.offers.cons rfl rfl rfl
      exact hair.tran fun h => nomatch h
    | _ => exact hm.offers.cons rfl rfl rfl
  · cases hmove with
    | op hop => exact hop.acceptsOnce hm.acceptsOnce
    | enter _ htarget =>
      refine ⟨fun htran => ?_, hm.acceptsOnce⟩
      injection htran with _ hsecurityMode
      rcases htarget with heq | heq | heq <;> cases hsecurityMode.symm.trans heq
    | leave _ htarget =>
      refine ⟨fun htran => ?_, hm.acceptsOnce⟩
      injection htran with _ hsecurityMode
      rcases htarget with heq | heq <;> cases hsecurityMode.symm.trans heq
    | enterSecurityMode _ _ henters =>
      refine ⟨(fun h => nomatch h), fun _ => ?_, hm.acceptsOnce⟩
      exact hm.accepts henters hcond.2.2
    | attachAgain => exact ⟨(fun h => nomatch h), (fun h => nomatch h), hm.acceptsOnce⟩
    | enbUes | queue | pendingAirs | decodeAgain | handled => exact hm.acceptsOnce
    | _ => exact ⟨(fun h => nomatch h), hm.acceptsOnce⟩

/-- If responses that agree with the stored octets come in order and the vectors of the HSS
are distinct, each vector is accepted once, for the request that was sent in this stay. -/
theorem acceptsOnce_of_responseInOrder [NasDecoder] (hinitial : m.Initial)
    (hreaches : Lts.Reaches (Mme.Step cfg) m m')
    (hcond : History.Always MmeLog.ResponseInOrder m'.log) :
    History.Always MmeLog.AcceptsOnce m'.log := by
  have hfresh : m.Fresh := by
    refine ⟨fun vector hvector => ?_, ?_, ?_⟩
    · rw [hinitial.log] at hvector
      cases hvector
    · rw [hinitial.log, hinitial.t3460]
      exact ⟨(fun _ _ h => nomatch h), fun _ h => absurd h List.not_mem_nil⟩
    · rw [hinitial.log]
      trivial
  have hafter : m'.Fresh := hinitial.invariant (fun _ _ hm hmove hlog => hm.move hmove hlog)
    hfresh hreaches hcond
  exact hafter.acceptsOnce

end

theorem acceptsOnce_sampleResponse :
    let _ := OgsCrypt.reference
    let _ := NasDecoder.reference
    History.Always MmeLog.AcceptsOnce (sampleRun sampleResponse).log :=
  @acceptsOnce_of_responseInOrder OgsCrypt.reference sampleConfig sampleMme _
    NasDecoder.reference sampleMme_initial
    (@sampleRun_reaches OgsCrypt.reference NasDecoder.reference _ (by decide +kernel))
    (by decide +kernel)

/-- In `emm_state_security_mode` the UE attaches again, and before the HSS has answered the
same response comes once more. -/
def sampleReplay : List MmeLabel :=
  sampleResponse ++ sampleUplink sampleAttachRequest ++
    sampleUplink [0x07, 0x53, 8, 1, 2, 3, 4, 5, 6, 7, 8]

/-- The response is accepted twice. -/
theorem acceptsOnce_replay :
    let _ := OgsCrypt.reference
    let _ := NasDecoder.reference
    ¬∀ m m' : Mme, m.Initial → Lts.Reaches (Mme.Step sampleConfig) m m' →
      History.Always MmeLog.AcceptsOnce m'.log := by
  intro crypt decoder hclaim
  have hreaches := @sampleRun_reaches OgsCrypt.reference NasDecoder.reference sampleReplay
    (by decide +kernel)
  have hlog := hclaim sampleMme _ sampleMme_initial hreaches
  exact absurd hlog (by decide +kernel)

end NextEpc

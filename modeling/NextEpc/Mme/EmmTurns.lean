import NextEpc.Mme.EmmOps

/-!
# What the states do

A state performs operations and may ask for a transition. `Mme.Enters` says for each state
that may be entered why it is, and `Mme.Goes` that a handler ends in this way.
-/

namespace NextEpc

/-- A message has just been handed to the state machine. -/
structure Mme.Begins (m : Mme) (h : Handling) (past : MmeLog) : Prop where
  handling : m.handling = some h
  ue : m.ue = h.ue
  emmState : m.log.emmState = h.ue.sm
  log : m.log = ⟨some h, .emmMessage⟩ :: past

/-- Why a state is entered, for the context when `OGS_FSM_TRAN` has been called. -/
inductive Mme.Enters (m : Mme) : EmmState → Prop
  | deRegistered (hdetach : m.log.emmState = .registered → ∃ h calls past,
      m.handling = some h ∧ h.ue.sm = .registered ∧
      (∃ detachType, h.message.body = .detachRequest detachType) ∧
      m.log = calls ++ ⟨some h, .emmMessage⟩ :: past) :
      Enters m .deRegistered
  | exception : Enters m .exception
  | authentication (hsource : m.log.emmState ≠ .securityMode)
      (ht3450 : m.log.emmState = .initialContextSetup → m.ue.t3450.pkbuf = none) :
      Enters m .authentication
  | securityMode {h : Handling} {res : Bytes} {past : MmeLog} (hhandling : m.handling = some h)
      (hstate : m.log.emmState = h.ue.sm) (hsource : h.ue.sm = .authentication)
      (hbody : h.message.body = .authenticationResponse res)
      (hequal : h.ue.resEqual h.tail res = true)
      (hue : m.ue = { h.ue with sm := .securityMode, t3460 := .clear })
      (hlog : m.log = ⟨some h, .emmMessage⟩ :: past) :
      Enters m .securityMode
  | complete {h : Handling} {past : MmeLog} {target : EmmState}
      (htarget : target = .initialContextSetup ∨ target = .registered)
      (hhandling : m.handling = some h) (hstate : m.log.emmState = h.ue.sm)
      (hsource : h.ue.sm = .securityMode)
      (hbody : h.message.body = .securityModeComplete)
      (htype : h.event.nasType.integrityProtected = true)
      (hvalid : h.ue.SecurityContextIsValid) (hmac : m.ue.macFailed = false)
      (hlog : m.log = ⟨some h, .kdfEnb h.ue.kasme h.ue.ulCount.i32⟩ ::
        ⟨some h, .emmMessage⟩ :: past) :
      Enters m target
  | attach {h : Handling} (hcontinues : m.Continues h) (hstate : m.log.emmState = h.ue.sm)
      (hderived : (∃ kasme ulCount, m.log.latestKdfEnb = some (some h, kasme, ulCount)) ∨
        h.message.serviceRequest = none ∧
          (∃ imsiLen, h.message.body = .identityResponse imsiLen) ∧
          h.ue.nasEps.type = .attachRequest) :
      Enters m .initialContextSetup
  | attachComplete {h : Handling} (hcompletes : m.Completes h)
      (hstate : m.log.emmState = h.ue.sm) (ht3450 : m.ue.t3450.pkbuf = none) :
      Enters m .registered

section
variable [OgsCrypt]

/-- Operations are performed, and a transition may be asked for. -/
structure Mme.Goes (m m' : Mme) : Prop where
  ops : MmeOps m m'
  enters : m'.ue.sm = m.ue.sm ∨ m'.Enters m'.ue.sm

variable {m m' m₁ : Mme} {cfg : MmeConfig} {env : MmeEnv} {plain : Bytes} {h : Handling}
  {calls past : MmeLog} {rv : Rv} {procedureCode : S1apProcedureCode}

/-- The identification of the request that is granted, by the message that is handled. -/
inductive Mme.RequestKind (m : Mme) (h : Handling) : Prop
  | attach {request : AttachRequest} (hbody : h.message.body = .attachRequest request)
      (htype : m.ue.nasEps.type = .attachRequest)
      (hderived : m.ue.SecurityContextIsValid →
        ∃ kasme ulCount, m.log.latestKdfEnb = some (some h, kasme, ulCount))
  | tau {request : TrackingAreaUpdateRequest}
      (hbody : h.message.body = .trackingAreaUpdateRequest request)
      (htype : m.ue.nasEps.type = .tauRequest)
      (hdata : m.ue.nasEps.data = request.epsUpdateType)
  | extendedService {serviceType : UInt8}
      (hbody : h.message.body = .extendedServiceRequest serviceType)
      (htype : m.ue.nasEps.type = .extendedServiceRequest)
  | identity {imsiLen : Option Nat} (hbody : h.message.body = .identityResponse imsiLen)
      (hnasEps : m.ue.nasEps = h.ue.nasEps)

/-- A request is about to be granted in a register state. -/
structure Mme.Requests (m : Mme) (h : Handling) : Prop where
  during : ∃ calls past, m.During h calls past
  sm : h.InRegisterState
  message : h.message.serviceRequest = none
  kind : m.RequestKind h

/-! ## Composition -/

omit [OgsCrypt] in
theorem Mme.Begins.during (hb : m.Begins h past) : m.During h [] past where
  handling := hb.handling
  emmState := hb.emmState
  available := congrArg _ hb.ue
  macFailed := congrArg _ hb.ue
  kasme := congrArg _ hb.ue
  ulCount := congrArg _ hb.ue
  log := hb.log
  calls := fun _ hitem => absurd hitem List.not_mem_nil

omit [OgsCrypt] in
theorem Mme.Continues.fsmTran (hc : m.Continues h) (target : EmmState) :
    (m.fsmTran target).Continues h :=
  hc.keep rfl rfl rfl

theorem MmeOps.fsmTran (target : EmmState) : MmeOps m (m.fsmTran target) :=
  MmeOps.keep ⟨rfl, Or.inl rfl, Or.inl rfl⟩

theorem Mme.Goes.stay (hops : MmeOps m m') (hsm : m'.ue.sm = m.ue.sm) : m.Goes m' :=
  ⟨hops, Or.inl hsm⟩

theorem Mme.Goes.fsmTran {target : EmmState} (hops : MmeOps m m₁)
    (henters : (m₁.fsmTran target).Enters target) : m.Goes (m₁.fsmTran target) :=
  ⟨hops.trans (MmeOps.fsmTran target), Or.inr henters⟩

theorem Mme.Goes.exception (hops : MmeOps m m₁) : m.Goes (m₁.fsmTran .exception) :=
  Goes.fsmTran hops .exception

theorem Mme.Goes.of_ops (hops : MmeOps m m₁) (hsm : m₁.ue.sm = m.ue.sm) (hg : m₁.Goes m') :
    m.Goes m' := by
  refine ⟨hops.trans hg.ops, ?_⟩
  rw [← hsm]
  exact hg.enters

theorem Mme.Goes.unlessError {next : Mme → MmeM Mme}
    (hnext : rv = .ok → next m = .ok m' → m.Goes m') (hr : unlessError rv next m = .ok m') :
    m.Goes m' := by
  unfold NextEpc.unlessError at hr
  split at hr
  case isTrue hrv => exact hnext hrv hr
  case isFalse =>
    cases hr
    exact Goes.exception Relation.ReflTransGen.refl

theorem Mme.Goes.unlessUnknown {next : Mme → MmeM Mme}
    (hnext : next m = .ok m' → m.Goes m') (hr : unlessUnknown next m = .ok m') : m.Goes m' := by
  unfold NextEpc.unlessUnknown at hr
  split at hr
  · exact hnext hr
  · cases hr
    exact Goes.exception Relation.ReflTransGen.refl

omit [OgsCrypt] in
theorem Mme.Requests.keep {ue : MmeUe} (hr : m.Requests h) (hue : ue.security = m.ue.security)
    (hnasEps : ue.nasEps = m.ue.nasEps) : ({ m with ue := ue } : Mme).Requests h where
  during := by
    obtain ⟨calls, past, hd⟩ := hr.during
    exact ⟨calls, past, hd.keep hue⟩
  sm := hr.sm
  message := hr.message
  kind := by
    cases hr.kind with
    | attach hbody htype hderived =>
      refine .attach hbody (by rw [hnasEps, htype]) fun hvalid => hderived ?_
      have havailable := congrArg MmeUe.securityContextAvailable hue
      have hmac := congrArg MmeUe.macFailed hue
      exact ⟨havailable ▸ hvalid.1, hmac ▸ hvalid.2.1, hnasEps ▸ hvalid.2.2⟩
    | tau hbody htype hdata => exact .tau hbody (by rw [hnasEps, htype]) (by rw [hnasEps, hdata])
    | extendedService hbody htype => exact .extendedService hbody (by rw [hnasEps, htype])
    | identity hbody hsame => exact .identity hbody (by rw [hnasEps, hsame])

omit [OgsCrypt] in
theorem Mme.Requests.isRequest (hr : m.Requests h) : h.message.IsRequest := by
  cases hr.kind with
  | attach hbody => exact Or.inr (Or.inl ⟨_, hbody⟩)
  | tau hbody => exact Or.inr (Or.inr (Or.inl ⟨_, hbody⟩))
  | extendedService hbody => exact Or.inr (Or.inr (Or.inr (Or.inl ⟨_, hbody⟩)))
  | identity hbody => exact Or.inr (Or.inr (Or.inr (Or.inr ⟨_, hbody⟩)))

omit [OgsCrypt] in
theorem Mme.Requests.continues (hr : m.Requests h) (hvalid : m.ue.SecurityContextIsValid) :
    m.Continues h := by
  obtain ⟨calls, past, hd⟩ := hr.during
  exact hd.continues hr.isRequest hr.sm hvalid

omit [OgsCrypt] in
theorem Mme.Requests.emmState (hr : m.Requests h) :
    m.log.emmState = .deRegistered ∨ m.log.emmState = .registered := by
  obtain ⟨calls, past, hd⟩ := hr.during
  rw [hd.emmState]
  exact hr.sm

omit [OgsCrypt] in
theorem Mme.Requests.emmState_ne {state : EmmState} (hr : m.Requests h)
    (hde : state ≠ .deRegistered) (hregistered : state ≠ .registered) :
    m.log.emmState ≠ state := by
  intro heq
  rcases hr.emmState with hsm | hsm
  · exact hde (heq.symm.trans hsm)
  · exact hregistered (heq.symm.trans hsm)

/-! ## The register states -/

theorem commonRegisterAttach_ok (hr : m.Requests h) (htype : m.ue.nasEps.type = .attachRequest)
    (hresult : commonRegisterAttach env m = .ok m') : m.Goes m' := by
  have hauthentication : ∀ {m₁ : Mme}, m₁.log.emmState = m.log.emmState →
      (m₁.fsmTran .authentication).Enters .authentication := by
    intro m₁ hstate
    apply Mme.Enters.authentication
    · change m₁.log.emmState ≠ _
      rw [hstate]
      exact hr.emmState_ne (by decide) (by decide)
    · intro hics
      exact absurd (hstate.symm.trans hics) (hr.emmState_ne (by decide) (by decide))
  unfold commonRegisterAttach at hresult
  split at hresult
  case isTrue hvalid =>
    obtain ⟨_, hsend, hresult⟩ := Fallible.bind_eq_ok.mp hresult
    cases hresult
    obtain ⟨queue, rfl, hqueue⟩ := nasSendEmmToEsm_ok hsend
    have hcontinues := hr.continues hvalid
    have hop : MmeOp m (({ m with queue := queue } : Mme).say .emmToEsm) :=
      .emmToEsm (Or.inr ⟨h, Or.inl hcontinues⟩) hqueue
    apply Mme.Goes.fsmTran (.single hop)
    have hqueued : ({ m with queue := queue } : Mme).Continues h := hcontinues.keep rfl rfl rfl
    have hsaid : (({ m with queue := queue } : Mme).say .emmToEsm).Continues h :=
      hqueued.say rfl
    obtain ⟨calls, past, hd⟩ := hr.during
    apply Mme.Enters.attach (hsaid.fsmTran .initialContextSetup) hd.emmState
    cases hr.kind with
    | attach hbody _ hderived =>
      obtain ⟨kasme, ulCount, hlatest⟩ := hderived hvalid
      exact Or.inl ⟨kasme, ulCount, (History.latest_cons_of_none rfl).trans hlatest⟩
    | tau _ hother => exact nomatch htype.symm.trans hother
    | extendedService _ hother => exact nomatch htype.symm.trans hother
    | identity hbody hsame => exact Or.inr ⟨hr.message, ⟨_, hbody⟩, hsame ▸ htype⟩
  case isFalse =>
    split at hresult
    · cases hresult
      exact Mme.Goes.fsmTran (MmeOps.keep ⟨rfl, Or.inl rfl, Or.inl rfl⟩) (hauthentication rfl)
    · cases hresult
      exact Mme.Goes.fsmTran (.single (.air (hr.emmState_ne (by decide) (by decide))))
        (hauthentication rfl)

omit [OgsCrypt] in
/-- The message asks for bearers, in an Initial UE Message. -/
theorem Mme.Requests.setsUp (hr : m.Requests h) (htype : m.ue.nasEps.type ≠ .attachRequest)
    (hflag : m.ue.nasEps.type = .tauRequest → m.ue.nasEps.activeFlag = true) :
    (∃ request, h.message.body = .trackingAreaUpdateRequest request ∧
        request.activeFlag = true) ∨
      (∃ serviceType, h.message.body = .extendedServiceRequest serviceType) ∨
      ∃ imsiLen, h.message.body = .identityResponse imsiLen ∧
        h.ue.nasEps.type ≠ .attachRequest := by
  cases hr.kind with
  | attach _ hattach => exact absurd hattach htype
  | @tau request hbody htau hdata =>
    refine Or.inl ⟨request, hbody, ?_⟩
    have hactive := hflag htau
    rw [NasEps.activeFlag, hdata] at hactive
    exact hactive
  | extendedService hbody => exact Or.inr (Or.inl ⟨_, hbody⟩)
  | identity hbody hsame => exact Or.inr (Or.inr ⟨_, hbody, hsame ▸ htype⟩)

theorem commonRegisterTau_ok (hr : m.Requests h) (htype : m.ue.nasEps.type = .tauRequest)
    (hresult : commonRegisterTau h.event.s1apCode env m = .ok m') : m.Goes m' := by
  have hattach : m.ue.nasEps.type ≠ .attachRequest := by
    rw [htype]
    decide
  have hsend : ∀ code : S1apProcedureCode, m.ue.SecurityContextIsValid →
      (code = .initialContextSetup → h.event.s1apCode = .initialUeMessage ∧
        m.ue.nasEps.activeFlag = true) →
      nasSendTauAccept code env.plain m = .ok m' → m.Goes m' := by
    intro code hvalid hcode hsent
    have hcontinues := hr.continues hvalid
    have hsaid : (m.say .tauAccept).Continues h := hcontinues.say rfl
    obtain ⟨hops, hsm, -⟩ := nasSendTauAccept_ok (Or.inr ⟨h, hcontinues⟩)
      (fun dlCount heq => .request (hsaid.keep rfl rfl rfl) (hcode heq).1 hr.message
        (hr.setsUp hattach fun _ => (hcode heq).2)) hsent
    exact Mme.Goes.stay hops hsm
  unfold commonRegisterTau at hresult
  split at hresult
  · cases hresult
    exact Mme.Goes.exception Relation.ReflTransGen.refl
  · split at hresult
    · cases hresult
      apply Mme.Goes.fsmTran (.single (.air (hr.emmState_ne (by decide) (by decide))))
      exact .authentication (hr.emmState_ne (by decide) (by decide))
        (fun hics => absurd hics (hr.emmState_ne (by decide) (by decide)))
    · have hvalid : m.ue.SecurityContextIsValid := by
        by_contra hinvalid
        contradiction
      split at hresult
      case h_1 hcode =>
        split at hresult
        case isTrue hflag => exact hsend _ hvalid (fun _ => ⟨hcode, hflag⟩) hresult
        case isFalse => exact hsend _ hvalid (fun heq => by cases heq) hresult
      case h_2 => exact hsend _ hvalid (fun heq => by cases heq) hresult
      case h_3 => cases hresult

theorem commonRegisterExtendedService_ok (hr : m.Requests h)
    (htype : m.ue.nasEps.type = .extendedServiceRequest)
    (hresult : commonRegisterExtendedService h.event.s1apCode env m = .ok m') : m.Goes m' := by
  have hattach : m.ue.nasEps.type ≠ .attachRequest := by
    rw [htype]
    decide
  have hexception : m.Goes (m.fsmTran .exception) :=
    Mme.Goes.exception Relation.ReflTransGen.refl
  unfold commonRegisterExtendedService at hresult
  split at hresult
  · cases hresult
    exact hexception
  · split at hresult
    · cases hresult
      exact hexception
    · split at hresult
      · cases hresult
        exact hexception
      · have hvalid : m.ue.SecurityContextIsValid := by
          by_contra hinvalid
          contradiction
        have hcontinues := hr.continues hvalid
        split at hresult
        case h_1 hcode =>
          split at hresult
          · rw [s1apSendInitialContextSetup_ok hresult]
            refine Mme.Goes.stay (.single (.initialContextSetupRequest ?_)) rfl
            exact .request hcontinues hcode hr.message (hr.setsUp hattach fun htau =>
              nomatch htype.symm.trans htau)
          · cases hresult
            exact hexception
        case h_2 =>
          split at hresult
          · rw [s1apSendUeContextModificationRequest_ok hresult]
            exact Mme.Goes.stay (.single (.ueContextModificationRequest hcontinues)) rfl
          · cases hresult
            exact hexception
        case h_3 => cases hresult

theorem commonRegisterRequest_ok (hr : m.Requests h)
    (hresult : commonRegisterRequest h.event.s1apCode env m = .ok m') : m.Goes m' := by
  unfold commonRegisterRequest at hresult
  split at hresult
  · cases hresult
    exact Mme.Goes.stay (MmeOps.keep ⟨rfl, Or.inl rfl, Or.inl rfl⟩) rfl
  · obtain ⟨_, _, hresult⟩ := Fallible.bind_eq_ok.mp hresult
    split at hresult
    case h_1 htype => exact commonRegisterAttach_ok hr htype hresult
    case h_2 htype => exact commonRegisterTau_ok hr htype hresult
    case h_3 htype => exact commonRegisterExtendedService_ok hr htype hresult
    case h_4 => cases hresult

/-! ## Handlers -/

/-- What an Attach Request leaves, whether it is accepted or not. -/
theorem emmHandleAttachRequest_ok {request : AttachRequest} (hd : m.During h [] past)
    (hbody : h.message.body = .attachRequest request)
    (hresult : emmHandleAttachRequest cfg env request m = .ok (m', rv)) :
    MmeOps m m' ∧ m'.ue.sm = m.ue.sm ∧ m'.ue.t3450.pkbuf = none ∧
      m'.ue.nasEps.type = .attachRequest ∧ ∃ calls, m'.During h calls past ∧
        (m'.ue.SecurityContextIsValid →
          calls = [⟨some h, .kdfEnb h.ue.kasme h.ue.ulCount.i32⟩]) := by
  obtain ⟨_, _, hresult⟩ := Fallible.bind_eq_ok.mp hresult
  obtain ⟨_, _, hresult⟩ := Fallible.bind_eq_ok.mp hresult
  set cleared := (m.setNasEps .attachRequest request.epsAttachType).clearAllTimers with hcleared
  have hbegin : MmeOps m cleared := MmeOps.keep ⟨rfl, Or.inr rfl, Or.inr rfl⟩
  have hdcleared : cleared.During h [] past := hd.keep rfl
  obtain ⟨hops, calls, hdkdf, hcalls⟩ :=
    hdcleared.kdfEnbIfValid (Or.inr (Or.inl ⟨request, hbody⟩)) rfl
  have hsm : cleared.kdfEnbIfValid.ue.sm = m.ue.sm ∧
      cleared.kdfEnbIfValid.ue.t3450.pkbuf = none ∧
      cleared.kdfEnbIfValid.ue.nasEps.type = .attachRequest := by
    unfold Mme.kdfEnbIfValid
    split <;> exact ⟨rfl, rfl, rfl⟩
  have hsecond := hbegin.trans hops
  dsimp only at hresult
  split at hresult
  · cases hresult
    exact ⟨hsecond, hsm.1, hsm.2.1, hsm.2.2, calls, hdkdf, hcalls⟩
  · split at hresult
    · cases hresult
      exact ⟨hsecond.trans (MmeOps.keep ⟨rfl, Or.inl rfl, Or.inl rfl⟩), hsm.1, hsm.2.1, hsm.2.2,
        calls, hdkdf.keep rfl, hcalls⟩
    · cases hresult
      cases request.imsiLen with
      | none =>
        exact ⟨hsecond.trans (MmeOps.keep ⟨rfl, Or.inl rfl, Or.inl rfl⟩), hsm.1, hsm.2.1,
          hsm.2.2, calls, hdkdf.keep rfl, hcalls⟩
      | some imsiLen =>
        exact ⟨hsecond.trans (MmeOps.keep ⟨rfl, Or.inl rfl, Or.inl rfl⟩), hsm.1, hsm.2.1,
          hsm.2.2, calls, hdkdf.keep rfl, hcalls⟩

omit [OgsCrypt] in
/-- `KeNB` for the Attach Request that is being handled. -/
theorem Mme.During.derived {kasme : Octets32} {ulCount : UInt32} (hd : m.During h calls past)
    (hcalls : calls = [⟨some h, .kdfEnb kasme ulCount⟩]) :
    m.log.latestKdfEnb = some (some h, kasme, ulCount) := by
  rw [hd.log, hcalls]
  rfl

/-- A Service Request in a register state. -/
theorem commonRegisterServiceRequest_ok {ksi : UInt8} (hb : m.Begins h past)
    (hsm : h.InRegisterState) (hmessage : h.message.serviceRequest = some ksi)
    (hresult : commonRegisterServiceRequest (emmHandleServiceRequest ksi m) = .ok m') :
    m.Goes m' := by
  have hsome : h.message.serviceRequest.isSome = true := by
    rw [hmessage]
    rfl
  set cleared : Mme := ({ m with
    ue := { m.ue with nasEps := { m.ue.nasEps with type := .serviceRequest, ksi := ksi } } } :
      Mme).clearAllTimers with hcleared
  have hbegin : MmeOps m cleared := MmeOps.keep ⟨rfl, Or.inr rfl, Or.inr rfl⟩
  have hdcleared : cleared.During h [] past := hb.during.keep rfl
  obtain ⟨hops, calls, hd, hcalls⟩ := hdcleared.kdfEnbIfValid (Or.inl hsome) rfl
  have hsame : cleared.kdfEnbIfValid.ue.sm = m.ue.sm := by
    unfold Mme.kdfEnbIfValid
    split <;> rfl
  have hhandle : emmHandleServiceRequest ksi m = cleared.kdfEnbIfValid := rfl
  rw [hhandle] at hresult
  unfold commonRegisterServiceRequest at hresult
  split at hresult
  · cases hresult
    exact Mme.Goes.exception (hbegin.trans hops)
  · split at hresult
    · cases hresult
      exact Mme.Goes.exception (hbegin.trans hops)
    · rename_i hinvalid
      have hvalid : cleared.kdfEnbIfValid.ue.SecurityContextIsValid := not_not.mp hinvalid
      rw [s1apSendInitialContextSetup_ok hresult]
      have hlog := hd.log
      rw [hcalls hvalid] at hlog
      have hcontinues := hd.continues (Or.inl hsome) hsm hvalid
      exact Mme.Goes.stay ((hbegin.trans hops).tail
        (.initialContextSetupRequest (.serviceRequest hcontinues hsome hlog))) hsame

theorem commonRegisterBody_ok (hb : m.Begins h past) (hsm : h.InRegisterState)
    (hmessage : h.message.serviceRequest = none)
    (hresult : commonRegisterBody cfg env h.event.s1apCode h.message.body m = .ok m') :
    m.Goes m' := by
  have hd := hb.during
  generalize hbody : h.message.body = body at hresult
  cases body with
  | identityResponse imsiLen =>
    obtain ⟨m₁, hhandle, hresult⟩ := Fallible.bind_eq_ok.mp hresult
    obtain ⟨_, _, hhandle⟩ := Fallible.bind_eq_ok.mp hhandle
    obtain ⟨_, _, hhandle⟩ := Fallible.bind_eq_ok.mp hhandle
    cases hhandle
    have hrequests : m.Requests h :=
      ⟨⟨[], past, hd⟩, hsm, hmessage, .identity hbody (congrArg _ hb.ue)⟩
    cases imsiLen with
    | none =>
      have hcleared : (m.clearT3470.setImsi none).Requests h := hrequests.keep rfl rfl
      have hops : MmeOps m (m.clearT3470.setImsi none) :=
        MmeOps.keep ⟨rfl, Or.inl rfl, Or.inl rfl⟩
      exact Mme.Goes.of_ops hops rfl
        (Mme.Goes.unlessUnknown (commonRegisterRequest_ok hcleared) hresult)
    | some imsiLen =>
      have hcleared : (m.clearT3470.setImsi (some imsiLen)).Requests h := hrequests.keep rfl rfl
      have hops : MmeOps m (m.clearT3470.setImsi (some imsiLen)) :=
        MmeOps.keep ⟨rfl, Or.inl rfl, Or.inl rfl⟩
      exact Mme.Goes.of_ops hops rfl
        (Mme.Goes.unlessUnknown (commonRegisterRequest_ok hcleared) hresult)
  | attachRequest request =>
    obtain ⟨⟨m₁, rv⟩, hhandle, hresult⟩ := Fallible.bind_eq_ok.mp hresult
    obtain ⟨hops, hsame, -, htype, calls, hd₁, hcalls⟩ :=
      emmHandleAttachRequest_ok hd hbody hhandle
    have hrequests : m₁.Requests h :=
      ⟨⟨calls, past, hd₁⟩, hsm, hmessage, .attach hbody htype fun hvalid =>
        ⟨_, _, hd₁.derived (hcalls hvalid)⟩⟩
    exact Mme.Goes.of_ops hops hsame
      (Mme.Goes.unlessError (fun _ => commonRegisterRequest_ok hrequests) hresult)
  | trackingAreaUpdateRequest request =>
    obtain ⟨⟨m₁, rv⟩, hhandle, hresult⟩ := Fallible.bind_eq_ok.mp hresult
    obtain ⟨hops, hsame, hrequests⟩ : MmeOps m m₁ ∧ m₁.ue.sm = m.ue.sm ∧ m₁.Requests h := by
      obtain ⟨_, _, hhandle⟩ := Fallible.bind_eq_ok.mp hhandle
      have hrequests : ((m.setNasEps .tauRequest request.epsUpdateType).clearAllTimers).Requests
          h :=
        ⟨⟨[], past, hd.keep rfl⟩, hsm, hmessage, .tau hbody rfl rfl⟩
      dsimp only at hhandle
      split at hhandle
      · cases hhandle
        exact ⟨MmeOps.keep ⟨rfl, Or.inr rfl, Or.inr rfl⟩, rfl, hrequests⟩
      · split at hhandle
        · cases hhandle
          exact ⟨MmeOps.keep ⟨rfl, Or.inr rfl, Or.inr rfl⟩, rfl, hrequests.keep rfl rfl⟩
        · cases hhandle
          exact ⟨MmeOps.keep ⟨rfl, Or.inr rfl, Or.inr rfl⟩, rfl, hrequests⟩
    exact Mme.Goes.of_ops hops hsame (Mme.Goes.unlessError
      (fun _ => Mme.Goes.unlessUnknown (commonRegisterRequest_ok hrequests)) hresult)
  | extendedServiceRequest serviceType =>
    obtain ⟨⟨m₁, rv⟩, hhandle, hresult⟩ := Fallible.bind_eq_ok.mp hresult
    obtain ⟨_, _, hhandle⟩ := Fallible.bind_eq_ok.mp hhandle
    cases hhandle
    have hrequests : ((m.setNasEps .extendedServiceRequest serviceType).clearAllTimers).Requests
        h :=
      ⟨⟨[], past, hd.keep rfl⟩, hsm, hmessage, .extendedService hbody rfl⟩
    have hops : MmeOps m (m.setNasEps .extendedServiceRequest serviceType).clearAllTimers :=
      MmeOps.keep ⟨rfl, Or.inr rfl, Or.inr rfl⟩
    exact Mme.Goes.of_ops hops rfl (Mme.Goes.unlessError
      (fun _ => Mme.Goes.unlessUnknown (commonRegisterRequest_ok hrequests)) hresult)
  | emmStatus =>
    cases hresult
    exact Mme.Goes.exception Relation.ReflTransGen.refl
  | detachRequest detachType =>
    obtain ⟨m₁, hdetach, hresult⟩ := Fallible.bind_eq_ok.mp hresult
    cases hresult
    have hset : MmeOps m (emmHandleDetachRequest detachType m) :=
      MmeOps.keep ⟨rfl, Or.inl rfl, Or.inl rfl⟩
    have hops : MmeOps m m₁ := by
      unfold commonRegisterDetach at hdetach
      split at hdetach
      · cases hdetach
        exact hset
      · exact hset.trans (mmeSendDeleteSessionOrDetach_ok hdetach).1
    apply Mme.Goes.fsmTran hops
    apply Mme.Enters.deRegistered
    intro hstate
    obtain ⟨calls, hlog⟩ := hops.log
    refine ⟨h, calls, past, hops.handling.trans hb.handling, ?_, ⟨_, hbody⟩, ?_⟩
    · exact hb.emmState.symm.trans (hops.emmState.symm.trans hstate)
    · rw [← hb.log]
      exact hlog
  | _ =>
    cases hresult
    exact Mme.Goes.stay Relation.ReflTransGen.refl rfl

theorem commonRegisterState_ok (hb : m.Begins h past) (hsm : h.InRegisterState)
    (hresult : commonRegisterState cfg env h m = .ok m') : m.Goes m' := by
  obtain ⟨_, _, hresult⟩ := Fallible.bind_eq_ok.mp hresult
  split at hresult
  case h_1 ksi hmessage => exact commonRegisterServiceRequest_ok hb hsm hmessage hresult
  case h_2 hmessage => exact commonRegisterBody_ok hb hsm hmessage hresult

/-! ## The other states -/

/-- An Attach Request in a state that is not a register state. -/
theorem emmAttachAgain_ok {request : AttachRequest} {next : Mme → Mme} (hb : m.Begins h past)
    (hbody : h.message.body = .attachRequest request)
    (hresult : emmAttachAgain cfg env request next m = .ok m') :
    ∃ m₁, MmeOps m m₁ ∧ m₁.ue.t3450.pkbuf = none ∧
      (m' = m₁.fsmTran .exception ∨ m' = (next m₁).fsmTran .authentication) := by
  obtain ⟨⟨m₁, rv⟩, hhandle, hresult⟩ := Fallible.bind_eq_ok.mp hresult
  obtain ⟨hops, -, ht3450, -⟩ := emmHandleAttachRequest_ok hb.during hbody hhandle
  refine ⟨m₁, hops, ht3450, ?_⟩
  by_cases hrv : rv = .ok
  · right
    exact (Except.ok.inj ((if_pos hrv).symm.trans hresult)).symm
  · left
    exact (Except.ok.inj ((if_neg hrv).symm.trans hresult)).symm

theorem emmDetach_ok {detachType : UInt8} (hb : m.Begins h past)
    (hsm : h.ue.sm ≠ .registered) (hresult : emmDetach env detachType m = .ok m') :
    m.Goes m' := by
  obtain ⟨m₁, hsend, hresult⟩ := Fallible.bind_eq_ok.mp hresult
  cases hresult
  have hset : MmeOps m (emmHandleDetachRequest detachType m) :=
    MmeOps.keep ⟨rfl, Or.inl rfl, Or.inl rfl⟩
  have hops := hset.trans (mmeSendDeleteSessionOrDetach_ok hsend).1
  apply Mme.Goes.fsmTran hops
  apply Mme.Enters.deRegistered
  intro hstate
  have hsame := MmeOps.emmState hops
  exact absurd (hb.emmState.symm.trans (hsame.symm.trans hstate)) hsm

theorem emmStateAuthentication_ok (hb : m.Begins h past) (hsm : h.ue.sm = .authentication)
    (hresult : emmStateAuthentication cfg env h m = .ok m') : m.Goes m' := by
  have hclear : MmeOps m m.clearT3460 := MmeOps.keep ⟨rfl, Or.inl rfl, Or.inr rfl⟩
  have hstate : m.log.emmState = .authentication := hb.emmState.trans hsm
  have hair : m.log.emmState ≠ .securityMode := by
    rw [hstate]
    decide
  unfold emmStateAuthentication at hresult
  generalize hbody : h.message.body = body at hresult
  cases body with
  | authenticationResponse res =>
    dsimp only at hresult
    split at hresult
    case isTrue hequal =>
      cases hresult
      have hue : (m.clearT3460.fsmTran .securityMode).ue =
          { h.ue with sm := .securityMode, t3460 := .clear } := by
        rw [← hb.ue]
        rfl
      rw [show m.clearT3460.ue.resEqual h.tail res = h.ue.resEqual h.tail res by
        rw [← hb.ue]; rfl] at hequal
      exact Mme.Goes.fsmTran hclear
        (.securityMode hb.handling hb.emmState hsm hbody hequal hue hb.log)
    case isFalse =>
      cases hresult
      exact Mme.Goes.exception hclear
  | authenticationFailure emmCause =>
    dsimp only at hresult
    split at hresult
    · cases hresult
      exact Mme.Goes.stay (hclear.tail (.air hair)) rfl
    · cases hresult
      exact Mme.Goes.exception hclear
  | attachRequest request =>
    obtain ⟨m₁, hops, -, rfl | rfl⟩ := emmAttachAgain_ok hb hbody hresult
    · exact Mme.Goes.exception hops
    · have hsame : m₁.log.emmState = .authentication := hops.emmState.trans hstate
      have hair₁ : m₁.log.emmState ≠ .securityMode := by
        rw [hsame]
        decide
      have hafter : ((mmeS6aSendAir m₁).fsmTran .authentication).log.emmState =
          .authentication := hsame
      apply Mme.Goes.fsmTran (hops.tail (.air hair₁))
      apply Mme.Enters.authentication
      · rw [hafter]
        decide
      · intro hics
        exact nomatch hafter.symm.trans hics
  | emmStatus =>
    cases hresult
    exact Mme.Goes.exception Relation.ReflTransGen.refl
  | detachRequest detachType =>
    exact emmDetach_ok hb (by rw [hsm]; decide) hresult
  | _ =>
    cases hresult
    exact Mme.Goes.stay Relation.ReflTransGen.refl rfl

theorem emmStateInitialContextSetup_ok (hb : m.Begins h past)
    (hsm : h.ue.sm = .initialContextSetup)
    (hresult : emmStateInitialContextSetup cfg env h m = .ok m') : m.Goes m' := by
  have hstate : m.log.emmState = .initialContextSetup := hb.emmState.trans hsm
  unfold emmStateInitialContextSetup at hresult
  generalize hbody : h.message.body = body at hresult
  cases body with
  | attachComplete container =>
    obtain ⟨m₁, hhandle, hresult⟩ := Fallible.bind_eq_ok.mp hresult
    cases hresult
    obtain ⟨_, hsend, hbuild⟩ := Fallible.bind_eq_ok.mp hhandle
    obtain ⟨queue, rfl, hqueue⟩ := nasSendEmmToEsm_ok hsend
    obtain ⟨dlCount, rfl⟩ := emmBuildCiphered_ok hbuild
    have hcompletes : m.clearT3450.Completes h :=
      ⟨hb.handling, hsm, ⟨container, hbody⟩, [], past, hb.log⟩
    have hclear : MmeOps m m.clearT3450 := MmeOps.keep ⟨rfl, Or.inr rfl, Or.inl rfl⟩
    have hsaid := hclear.tail (.emmToEsm (Or.inr ⟨h, Or.inr hcompletes⟩) hqueue)
    have hops := hsaid.tail (.protect dlCount)
    obtain ⟨calls, hcalls⟩ := MmeOps.log hops
    rw [hb.log] at hcalls
    apply Mme.Goes.fsmTran hops
    exact .attachComplete ⟨hb.handling, hsm, ⟨container, hbody⟩, calls, past, hcalls⟩
      hb.emmState rfl
  | attachRequest request =>
    obtain ⟨m₁, hops, ht3450, rfl | rfl⟩ := emmAttachAgain_ok hb hbody hresult
    · exact Mme.Goes.exception hops
    · have hair : m₁.log.emmState ≠ .securityMode := by
        rw [hops.emmState, hstate]
        decide
      have hdelete : MmeOps m₁ (mmeGtpSendDeleteAllSessions m₁) :=
        MmeOps.keep ⟨rfl, Or.inl rfl, Or.inl rfl⟩
      exact Mme.Goes.fsmTran (hops.trans hdelete) (.authentication hair fun _ => ht3450)
  | emmStatus =>
    cases hresult
    exact Mme.Goes.exception Relation.ReflTransGen.refl
  | detachRequest detachType =>
    exact emmDetach_ok hb (by rw [hsm]; decide) hresult
  | _ =>
    cases hresult
    exact Mme.Goes.stay Relation.ReflTransGen.refl rfl

/-- A Security Mode Complete leads to the state that the request asks for. -/
theorem emmSecurityModeComplete_ok (hb : m.Begins h past) (hsm : h.ue.sm = .securityMode)
    (hbody : h.message.body = .securityModeComplete)
    (hresult : emmSecurityModeComplete h.event.nasType m = .ok m') :
    m.Goes m' ∧ m'.ue.sm ≠ .securityMode := by
  have hclear : MmeOps m m.clearT3460 := MmeOps.keep ⟨rfl, Or.inl rfl, Or.inr rfl⟩
  unfold emmSecurityModeComplete at hresult
  dsimp only at hresult
  split at hresult
  · cases hresult
    exact ⟨Mme.Goes.exception hclear, fun heq => nomatch heq⟩
  · rename_i htype
    split at hresult
    · cases hresult
      exact ⟨Mme.Goes.exception hclear, fun heq => nomatch heq⟩
    · rename_i hinvalid
      have hvalid : h.ue.SecurityContextIsValid := by
        rw [← hb.ue]
        exact not_not.mp hinvalid
      have hd : m.clearT3460.During h [] past := hb.during.keep rfl
      have hderives : m.clearT3460.Derives h :=
        ⟨hd.handling, Or.inr (Or.inr hbody), hd.kasme, hd.ulCount,
          Or.inr (hd.emmState.trans hsm), past, hd.log⟩
      have hops := hclear.tail (.kdfEnb hderives)
      have hlog : m.clearT3460.kdfEnb.log = ⟨some h, .kdfEnb h.ue.kasme h.ue.ulCount.i32⟩ ::
          ⟨some h, .emmMessage⟩ :: past := by
        rw [← hb.log, ← hb.ue]
        exact congrArg (fun handling => MmeLogItem.mk handling _ :: m.log) hb.handling
      have henters : ∀ target, target = .initialContextSetup ∨ target = .registered →
          (m.clearT3460.kdfEnb.fsmTran target).Enters target := fun target htarget =>
        .complete htarget hb.handling hb.emmState hsm hbody (by simpa using htype) hvalid
          (hd.macFailed.trans hvalid.2.1) hlog
      split at hresult
      case h_1 =>
        cases hresult
        exact ⟨Mme.Goes.fsmTran hops (henters _ (Or.inl rfl)), fun heq => nomatch heq⟩
      case h_2 =>
        cases hresult
        exact ⟨Mme.Goes.fsmTran hops (henters _ (Or.inr rfl)), fun heq => nomatch heq⟩
      case h_3 =>
        cases hresult
        exact ⟨Mme.Goes.fsmTran hops (henters _ (Or.inr rfl)), fun heq => nomatch heq⟩
      case h_4 => cases hresult

/-- In `emm_state_security_mode` an Attach Request asks the HSS for a new vector and leaves
the state at once. A message after which the state is the same has no effect. -/
theorem emmStateSecurityMode_ok (hb : m.Begins h past) (hsm : h.ue.sm = .securityMode)
    (hresult : emmStateSecurityMode cfg env h m = .ok m') :
    (m.Goes m' ∧ (m'.ue.sm = .securityMode → m' = m)) ∨
      ∃ m₁, MmeOps m m₁ ∧ m' = (mmeS6aSendAir m₁).fsmTran .authentication := by
  have hexception : ∀ {m₁ : Mme}, MmeOps m m₁ → m.Goes (m₁.fsmTran .exception) ∧
      ((m₁.fsmTran .exception).ue.sm = .securityMode → m₁.fsmTran .exception = m) :=
    fun hops => ⟨Mme.Goes.exception hops, fun heq => nomatch heq⟩
  unfold emmStateSecurityMode at hresult
  split at hresult
  · cases hresult
    exact Or.inl (hexception Relation.ReflTransGen.refl)
  · generalize hbody : h.message.body = body at hresult
    cases body with
    | securityModeComplete =>
      obtain ⟨hgoes, hne⟩ := emmSecurityModeComplete_ok hb hsm hbody hresult
      exact Or.inl ⟨hgoes, fun heq => absurd heq hne⟩
    | securityModeReject =>
      cases hresult
      exact Or.inl (hexception (MmeOps.keep ⟨rfl, Or.inl rfl, Or.inr rfl⟩))
    | attachRequest request =>
      obtain ⟨m₁, hops, -, rfl | rfl⟩ := emmAttachAgain_ok hb hbody hresult
      · exact Or.inl (hexception hops)
      · exact Or.inr ⟨m₁, hops, rfl⟩
    | trackingAreaUpdateRequest request =>
      cases hresult
      exact Or.inl (hexception Relation.ReflTransGen.refl)
    | emmStatus =>
      cases hresult
      exact Or.inl (hexception Relation.ReflTransGen.refl)
    | detachRequest detachType =>
      have hgoes := emmDetach_ok hb (by rw [hsm]; decide) hresult
      refine Or.inl ⟨hgoes, fun heq => ?_⟩
      obtain ⟨_, _, hresult⟩ := Fallible.bind_eq_ok.mp hresult
      cases hresult
      exact nomatch heq
    | _ =>
      cases hresult
      exact Or.inl ⟨Mme.Goes.stay Relation.ReflTransGen.refl rfl, fun _ => rfl⟩

/-- A message in any state. -/
theorem emmStateMessage_ok (hb : m.Begins h past)
    (hresult : emmStateMessage cfg env h m = .ok m') :
    (m.Goes m' ∧ (m.ue.sm = .securityMode → m'.ue.sm = .securityMode → m' = m)) ∨
      ∃ m₁, MmeOps m m₁ ∧ h.ue.sm = .securityMode ∧
        m' = (mmeS6aSendAir m₁).fsmTran .authentication := by
  unfold emmStateMessage at hresult
  generalize hsm : m.ue.sm = sm at hresult
  have hhsm : h.ue.sm = sm := by rw [← hb.ue, hsm]
  have hother : m.Goes m' → sm ≠ .securityMode →
      (m.Goes m' ∧ (sm = .securityMode → m'.ue.sm = .securityMode → m' = m)) ∨
        ∃ m₁, MmeOps m m₁ ∧ h.ue.sm = .securityMode ∧
          m' = (mmeS6aSendAir m₁).fsmTran .authentication :=
    fun hgoes hne => Or.inl ⟨hgoes, fun heq => absurd heq hne⟩
  cases sm with
  | deRegistered => exact hother (commonRegisterState_ok hb (Or.inl hhsm) hresult) (by decide)
  | registered => exact hother (commonRegisterState_ok hb (Or.inr hhsm) hresult) (by decide)
  | authentication => exact hother (emmStateAuthentication_ok hb hhsm hresult) (by decide)
  | initialContextSetup =>
    exact hother (emmStateInitialContextSetup_ok hb hhsm hresult) (by decide)
  | exception =>
    cases hresult
    exact hother (Mme.Goes.stay Relation.ReflTransGen.refl rfl) (by decide)
  | securityMode =>
    rcases emmStateSecurityMode_ok hb hhsm hresult with ⟨hgoes, hsame⟩ | ⟨m₁, hops, heq⟩
    · exact Or.inl ⟨hgoes, fun _ => hsame⟩
    · exact Or.inr ⟨m₁, hops, hhsm, heq⟩

end

end NextEpc

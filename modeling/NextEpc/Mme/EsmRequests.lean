import NextEpc.Lib.Retransmission
import NextEpc.Mme.EsmSm

/-!
# Requests for ESM information

How often the MME asks a UE for its ESM information, whatever the order in which messages and
expiries of T3489 are handled: each run of the state machine is a run of a retransmission.
-/

namespace NextEpc

/-- A message of the UE that a transfer of ESM information starts or ends with. -/
def EsmMessage.isProcedure : EsmMessage → Bool
  | .pdnConnectivityRequest _ | .esmInformationResponse _ => true
  | _ => false

namespace EsmEntry

def isProcedure : EsmEntry → Bool
  | .message esm => esm.isProcedure
  | _ => false

def isInformationRequest : EsmEntry → Bool
  | .esmInformationRequest _ => true
  | _ => false

end EsmEntry

namespace Esm
variable {maxNumOfSess : Nat} {s t u : Esm maxNumOfSess} {env : EsmEnv} {message : EsmMessage}

/-! ## T3489 as a retransmission -/

def procedures (s : Esm maxNumOfSess) : Nat := s.log.countP EsmEntry.isProcedure

def sent (s : Esm maxNumOfSess) : Nat := s.log.countP EsmEntry.isInformationRequest

/-- T3489 has expired or may still expire, in a state that expects it. -/
def armed (s : Esm maxNumOfSess) : Bool :=
  (s.running || decide (0 < s.expiries)) && s.sm != .exception

def view (s : Esm maxNumOfSess) : Retransmission where
  procedures := s.procedures
  sent := s.sent
  retries := if s.armed then min s.t3489.retryCount t3489MaxCount else t3489MaxCount
  armed := s.armed

theorem view_of_initial (h : s.Initial) : s.view = .initial t3489MaxCount := by
  simp [view, procedures, sent, armed, h.log, h.running, h.expiries, Retransmission.initial]

/-- Nothing that T3489 is about has changed. -/
structure Quiet (s t : Esm maxNumOfSess) : Prop where
  procedures : t.procedures = s.procedures
  sent : t.sent = s.sent
  t3489 : t.t3489 = s.t3489
  running : t.running = s.running
  expiries : t.expiries = s.expiries
  exception : t.sm = .exception ↔ s.sm = .exception

theorem Quiet.refl (s : Esm maxNumOfSess) : Quiet s s := ⟨rfl, rfl, rfl, rfl, rfl, Iff.rfl⟩

theorem Quiet.trans (h : Quiet s t) (h' : Quiet t u) : Quiet s u where
  procedures := h'.procedures.trans h.procedures
  sent := h'.sent.trans h.sent
  t3489 := h'.t3489.trans h.t3489
  running := h'.running.trans h.running
  expiries := h'.expiries.trans h.expiries
  exception := h'.exception.trans h.exception

theorem Quiet.view (h : Quiet s t) : t.view = s.view := by
  have harmed : t.armed = s.armed := by
    rw [armed, armed, h.running, h.expiries, bne, bne, Bool.beq_eq_decide_eq,
      Bool.beq_eq_decide_eq]
    simp only [h.exception]
  simp only [Esm.view, harmed, h.procedures, h.sent, h.t3489]

/-! ## What a step does to the counts -/

section
variable {call : EsmEntry}

@[simp] theorem procedures_say :
    (s.say call).procedures = s.procedures + if call.isProcedure then 1 else 0 :=
  List.countP_cons ..

@[simp] theorem sent_say :
    (s.say call).sent = s.sent + if call.isInformationRequest then 1 else 0 :=
  List.countP_cons ..

/-- A call that is not about the ESM information. -/
theorem quiet_say (hprocedure : call.isProcedure = false)
    (hrequest : call.isInformationRequest = false) : Quiet s (s.say call) where
  procedures := by rw [procedures_say, hprocedure]; rfl
  sent := by rw [sent_say, hrequest]; rfl
  t3489 := rfl
  running := rfl
  expiries := rfl
  exception := Iff.rfl

theorem quiet_sayIf {path : Bool} (hprocedure : call.isProcedure = false)
    (hrequest : call.isInformationRequest = false) : Quiet s (s.sayIf path call) := by
  cases path with
  | false => exact .refl s
  | true => exact quiet_say hprocedure hrequest

theorem quiet_fsmTran {target : EsmState} (hsm : s.sm ≠ .exception) (htarget : target ≠ .exception) :
    Quiet s (s.fsmTran target) :=
  ⟨rfl, rfl, rfl, rfl, rfl, iff_of_false htarget hsm⟩

end

/-- Besides, no state is entered that stops T3489. -/
structure Aside (s t : Esm maxNumOfSess) : Prop extends Quiet s t where
  entered : t.sm = s.sm ∨ t.sm ≠ .inactive ∧ t.sm ≠ .exception

theorem Aside.refl (s : Esm maxNumOfSess) : Aside s s := ⟨.refl s, .inl rfl⟩

theorem Aside.of_fsmTran {target : EsmState} (h : Quiet s t) (hsm : s.sm ≠ .exception)
    (hinactive : target ≠ .inactive) (hexception : target ≠ .exception) :
    Aside s (t.fsmTran target) where
  toQuiet := h.trans (quiet_fsmTran (mt h.exception.mp hsm) hexception)
  entered := .inr ⟨hinactive, hexception⟩

/-- A state that is not entered, or in which nothing is done then. -/
theorem Aside.ogsFsmEnter_eq (h : Aside s t) : t.ogsFsmEnter s.sm = t := by
  unfold ogsFsmEnter esmStateEntry
  split_ifs with hsource
  · rfl
  · obtain ⟨hinactive, hexception⟩ := h.entered.resolve_left hsource
    split <;> simp_all

theorem aside_esmStateInactive (hsm : s.sm = .inactive) (hmessage : message.isProcedure = false)
    (h : s.esmStateInactive env message = .ok t) : Aside s t := by
  have hne : s.sm ≠ .exception := by simp [hsm]
  cases message with
  | pdnConnectivityRequest | esmInformationResponse => cases hmessage
  | activateDefaultEpsBearerContextAccept =>
    cases h
    exact .of_fsmTran ((quiet_sayIf rfl rfl).trans (quiet_say rfl rfl)) hne (by decide) (by decide)
  | activateDedicatedEpsBearerContextAccept =>
    cases h
    exact .of_fsmTran (quiet_sayIf rfl rfl) hne (by decide) (by decide)
  | _ =>
    cases h
    exact .refl s

theorem aside_esmStateActive (hsm : s.sm = .active) (hmessage : message.isProcedure = false)
    (h : s.esmStateActive env message = .ok t) : Aside s t := by
  have hne : s.sm ≠ .exception := by simp [hsm]
  cases message with
  | pdnConnectivityRequest => cases hmessage
  | pdnDisconnectRequest =>
    cases h
    refine .of_fsmTran ?_ hne (by decide) (by decide)
    split_ifs <;> exact quiet_say rfl rfl
  | modifyEpsBearerContextAccept =>
    cases h
    exact ⟨quiet_say rfl rfl, .inl rfl⟩
  | deactivateEpsBearerContextAccept =>
    cases h
    exact .of_fsmTran (quiet_say rfl rfl) hne (by decide) (by decide)
  | _ =>
    cases h
    exact .refl s

theorem aside_esmStatePdnWillDisconnect (hsm : s.sm = .pdnWillDisconnect) :
    Aside s (s.esmStatePdnWillDisconnect message) := by
  unfold esmStatePdnWillDisconnect
  split
  · exact .of_fsmTran (.refl s) (by simp [hsm]) (by decide) (by decide)
  · exact .refl s

/-- A message that is not about the ESM information. -/
theorem aside_esmStateMessage (hmessage : message.isProcedure = false)
    (h : s.esmStateMessage env message = .ok t) : Aside s t := by
  unfold esmStateMessage at h
  split at h
  case h_1 hsm => exact aside_esmStateInactive hsm hmessage h
  case h_2 hsm => exact aside_esmStateActive hsm hmessage h
  case h_3 hsm =>
    cases h
    exact aside_esmStatePdnWillDisconnect hsm
  all_goals
    cases h
    exact .refl s

theorem quiet_afterMessage (h : s.afterMessage env = .ok t) : Quiet s t := by
  unfold afterMessage at h
  split at h
  · cases h
    exact ⟨rfl, rfl, rfl, rfl, rfl, Iff.rfl⟩
  · obtain ⟨_, _, h⟩ := Fallible.bind_eq_ok.mp h
    cases h
    exact ⟨rfl, rfl, rfl, rfl, rfl, Iff.rfl⟩
  · cases h
    exact quiet_say rfl rfl
  · cases h
    exact .refl s

theorem quiet_mmeEsmMessage (hmessage : message.isProcedure = false)
    (h : s.mmeEsmMessage env message = .ok t) : Quiet s t := by
  obtain ⟨u, hu, h⟩ := Fallible.bind_eq_ok.mp h
  have hsay : Quiet s (s.say (.message message)) := quiet_say hmessage rfl
  have haside := aside_esmStateMessage hmessage hu
  rw [show s.sm = (s.say (.message message)).sm from rfl, haside.ogsFsmEnter_eq] at h
  exact (hsay.trans haside.toQuiet).trans (quiet_afterMessage h)

/-! ## A transfer of ESM information -/

/-- The UE may have been asked once. -/
structure AtMostOnce (s t : Esm maxNumOfSess) : Prop where
  procedures : t.procedures = s.procedures
  sent : ∃ n ≤ 1, t.sent = s.sent + n

theorem Quiet.atMostOnce (h : Quiet s t) : AtMostOnce s t :=
  ⟨h.procedures, 0, Nat.zero_le 1, h.sent⟩

/-- Only the log of the state before is counted. -/
theorem AtMostOnce.of_log (h : AtMostOnce u t) (hlog : s.log = u.log) : AtMostOnce s t where
  procedures := by
    rw [Esm.procedures, Esm.procedures, hlog]
    exact h.procedures
  sent := by
    rw [show s.sent = u.sent by rw [Esm.sent, Esm.sent, hlog]]
    exact h.sent

@[simp] theorem findPdn_log (apn : Option CString) : (s.findPdn apn).log = s.log := by
  cases apn <;> rfl

@[simp] theorem storePco_log (pco : Option Bytes) : (s.storePco pco).log = s.log := by
  cases pco <;> rfl

theorem quiet_createSessionOrReject : Quiet s (s.createSessionOrReject env).1 := by
  unfold createSessionOrReject
  split <;> exact quiet_say rfl rfl

theorem atMostOnce_connectPdn (required : Bool) : AtMostOnce s (s.connectPdn env required).1 := by
  unfold connectPdn
  split_ifs
  · exact ⟨procedures_say, 1, le_rfl, sent_say⟩
  · exact .of_log (Quiet.atMostOnce quiet_createSessionOrReject) rfl
  · exact quiet_createSessionOrReject.atMostOnce

theorem atMostOnce_pdnConnectivityRequest {request : PdnConnectivityRequest}
    {r : Esm maxNumOfSess × Rv} (h : s.esmHandlePdnConnectivityRequest env request = .ok r) :
    AtMostOnce s r.1 := by
  obtain ⟨_, _, h⟩ := Fallible.bind_eq_ok.mp h
  obtain ⟨_, _, h⟩ := Fallible.bind_eq_ok.mp h
  simp only at h
  split_ifs at h <;> cases h
  · refine .of_log (Quiet.atMostOnce (quiet_say rfl rfl)) ?_
    rw [findPdn_log]
  · refine .of_log (atMostOnce_connectPdn _) ?_
    rw [storePco_log, findPdn_log]

theorem atMostOnce_informationResponse {response : EsmInformationResponse} :
    AtMostOnce s (s.esmHandleInformationResponse env response).1 := by
  unfold esmHandleInformationResponse
  have hlog : s.log = ((s.findPdn response.accessPointName).storePco
      response.protocolConfigurationOptions).log := by
    rw [storePco_log, findPdn_log]
  simp only
  split_ifs
  · exact .of_log (Quiet.atMostOnce (quiet_say rfl rfl)) hlog
  · exact .of_log (Quiet.atMostOnce (quiet_say rfl rfl)) hlog
  · exact .of_log (Quiet.atMostOnce quiet_createSessionOrReject) hlog

theorem atMostOnce_unlessError {next : Esm maxNumOfSess → Esm maxNumOfSess}
    {r : Esm maxNumOfSess × Rv} (hnext : (next r.1).log = r.1.log) (h : AtMostOnce s r.1) :
    AtMostOnce s (unlessError next r) := by
  have hlog : (unlessError next r).log = r.1.log := by
    unfold unlessError
    split_ifs
    · exact hnext
    · rfl
  constructor
  · rw [Esm.procedures, hlog]
    exact h.procedures
  · rw [show (unlessError next r).sent = r.1.sent by rw [Esm.sent, Esm.sent, hlog]]
    exact h.sent

theorem atMostOnce_esmStateMessage (h : s.esmStateMessage env message = .ok t) :
    AtMostOnce s t := by
  cases hmessage : message.isProcedure with
  | false => exact (aside_esmStateMessage hmessage h).atMostOnce
  | true =>
    unfold esmStateMessage at h
    cases message with
    | pdnConnectivityRequest request =>
      split at h
      case h_1 | h_2 =>
        obtain ⟨r, hr, h⟩ := Fallible.bind_eq_ok.mp h
        cases h
        exact atMostOnce_unlessError rfl (atMostOnce_pdnConnectivityRequest hr)
      all_goals
        cases h
        exact (Quiet.refl s).atMostOnce
    | esmInformationResponse response =>
      split at h
      case h_1 =>
        cases h
        exact atMostOnce_unlessError rfl (.of_log atMostOnce_informationResponse rfl)
      all_goals
        cases h
        exact (Quiet.refl s).atMostOnce
    | _ => cases hmessage

@[simp] theorem ogsFsmEnter_log {source : EsmState} : (s.ogsFsmEnter source).log = s.log := by
  unfold ogsFsmEnter esmStateEntry
  split_ifs
  · rfl
  · split <;> rfl

/-- A message that a transfer starts or ends with is counted, and the UE may be asked for it. -/
theorem counts_mmeEsmMessage (hmessage : message.isProcedure = true)
    (h : s.mmeEsmMessage env message = .ok t) :
    t.procedures = s.procedures + 1 ∧ ∃ n ≤ 1, t.sent = s.sent + n := by
  obtain ⟨u, hu, h⟩ := Fallible.bind_eq_ok.mp h
  have honce := atMostOnce_esmStateMessage hu
  have hquiet := quiet_afterMessage h
  have hprocedures : (s.say (.message message)).procedures = s.procedures + 1 := by
    rw [procedures_say, EsmEntry.isProcedure, hmessage]
    rfl
  constructor
  · rw [hquiet.procedures, Esm.procedures, ogsFsmEnter_log, ← Esm.procedures, honce.procedures,
      hprocedures]
  · rw [hquiet.sent, Esm.sent, ogsFsmEnter_log, ← Esm.sent]
    exact honce.sent

/-! ## The simulation -/

theorem view_retries_le : s.view.retries ≤ t3489MaxCount := by
  simp only [view]
  split_ifs
  · exact min_le_right _ _
  · exact le_rfl

theorem view_retries_of_armed (h : s.armed = true) :
    s.view.retries = min s.t3489.retryCount t3489MaxCount := if_pos h

theorem view_retries_of_not_armed (h : s.armed = false) : s.view.retries = t3489MaxCount :=
  if_neg (by simp [h])

/-- Nothing is sent, T3489 is not started, and its expiries are still counted. -/
theorem rest_of (hprocedures : t.procedures = s.procedures) (hsent : t.sent = s.sent)
    (hretries : t.armed = true → s.armed = true ∧ t.t3489 = s.t3489) :
    Retransmission.Step t3489MaxCount s.view () t.view := by
  have hview : t.view = ⟨s.view.procedures, s.view.sent, t.view.retries, t.view.armed⟩ :=
    congrArg₂ (Retransmission.mk · · t.view.retries t.view.armed) hprocedures hsent
  rw [hview]
  apply Retransmission.Step.rest
  · cases harmed : t.armed with
    | false =>
      rw [view_retries_of_not_armed harmed]
      exact view_retries_le
    | true =>
      obtain ⟨hs, ht3489⟩ := hretries harmed
      rw [view_retries_of_armed harmed, view_retries_of_armed hs, ht3489]
  · exact fun harmed => (hretries harmed).1

theorem armed_of_sm (hsm : s.sm = .exception) : s.armed = false := by
  simp [armed, hsm]

theorem armed_of_dequeue (h : s.dequeue.armed = true) : s.armed = true := by
  rw [armed, Bool.and_eq_true, Bool.or_eq_true] at h ⊢
  obtain ⟨hsource, hsm⟩ := h
  refine ⟨hsource.imp_right fun hpos => ?_, hsm⟩
  have hpos : 0 < s.expiries - 1 := of_decide_eq_true hpos
  exact decide_eq_true (by omega)

/-! What is done with an expiry. -/

theorem mmeEsmTimer_again (hsm : s.sm = .inactive) (hlt : s.t3489.retryCount < t3489MaxCount) :
    s.mmeEsmTimer env = ({ s with t3489 := { s.t3489 with
      retryCount := s.t3489.retryCount + 1 } }).nasSendEsmInformationRequest env := by
  simp only [mmeEsmTimer, esmStateTimer, hsm, esmStateInactiveTimer, if_neg (Nat.not_le.mpr hlt)]
  exact if_pos rfl

theorem mmeEsmTimer_reject (hsm : s.sm = .inactive) (hle : t3489MaxCount ≤ s.t3489.retryCount) :
    s.mmeEsmTimer env = ((s.fsmTran .exception).say
      (.pdnConnectivityReject env.registered esmCauseEsmInformationNotReceived)).clearT3489 := by
  simp only [mmeEsmTimer, esmStateTimer, hsm, esmStateInactiveTimer, if_pos hle]
  rfl

theorem mmeEsmTimer_of_ne (hsm : s.sm ≠ .inactive) : s.mmeEsmTimer env = s := by
  have hstate : s.esmStateTimer env = s := by
    unfold esmStateTimer
    split
    · exact absurd ‹_› hsm
    · rfl
  rw [mmeEsmTimer, hstate]
  exact if_pos rfl

/-- The UE is asked again if the retries are not used up. -/
theorem again_of_timer (hsm : s.sm = .inactive) (hexpiries : 0 < s.expiries)
    (hretries : s.t3489.retryCount < t3489MaxCount) :
    Retransmission.Step t3489MaxCount s.view () (s.dequeue.mmeEsmTimer env).view := by
  have harmed : s.armed = true := by simp [armed, hsm, hexpiries]
  have hview : s.view.retries = s.t3489.retryCount := by
    rw [view_retries_of_armed harmed]
    omega
  have hafter : (s.dequeue.mmeEsmTimer env).view =
      ⟨s.view.procedures, s.view.sent + 1, s.view.retries + 1, true⟩ := by
    rw [hview, mmeEsmTimer_again (s := s.dequeue) hsm hretries]
    generalize ht : ({ s.dequeue with t3489 := { s.dequeue.t3489 with
      retryCount := s.dequeue.t3489.retryCount + 1 } }).nasSendEsmInformationRequest env = t
    have harmed' : t.armed = true := by
      simp [← ht, armed, nasSendEsmInformationRequest, say, dequeue, hsm]
    have hcount : t.t3489.retryCount = s.t3489.retryCount + 1 := by
      rw [← ht]
      rfl
    have hmin : min (s.t3489.retryCount + 1) t3489MaxCount = s.t3489.retryCount + 1 := by omega
    simp only [view, harmed', if_true, Retransmission.mk.injEq, hcount, hmin, and_true]
    rw [← ht]
    exact ⟨procedures_say, sent_say⟩
  rw [hafter]
  exact .again harmed (by omega)

theorem view_of_timer (hexpiries : 0 < s.expiries) :
    Retransmission.Step t3489MaxCount s.view () (s.dequeue.mmeEsmTimer env).view := by
  by_cases hsm : s.sm = .inactive
  · by_cases hretries : s.t3489.retryCount < t3489MaxCount
    · exact again_of_timer hsm hexpiries hretries
    · rw [mmeEsmTimer_reject (s := s.dequeue) hsm (Nat.not_lt.mp hretries)]
      apply rest_of procedures_say sent_say
      intro harmed
      rw [armed_of_sm rfl] at harmed
      cases harmed
  · rw [mmeEsmTimer_of_ne (s := s.dequeue) hsm]
    exact rest_of rfl rfl fun harmed => ⟨armed_of_dequeue harmed, rfl⟩

/-- Every step is a run of the retransmission. -/
theorem Step.view {label : Label maxNumOfSess} (h : Step s label t) :
    Lts.Reaches (Retransmission.Step t3489MaxCount) s.view t.view := by
  cases h with
  | @message _ _ message _ h =>
    cases hmessage : message.isProcedure with
    | false =>
      rw [(quiet_mmeEsmMessage hmessage h).view]
      exact Relation.ReflTransGen.refl
    | true =>
      -- the procedure leaves the retries open, which the second step settles
      obtain ⟨hprocedures, n, hn, hsent⟩ := counts_mmeEsmMessage hmessage h
      have hview : t.view = ⟨s.view.procedures + 1, s.view.sent + n, t.view.retries, t.armed⟩ :=
        congrArg₂ (Retransmission.mk · · t.view.retries t.armed) hprocedures hsent
      rw [hview]
      exact (Relation.ReflTransGen.single ⟨(), .procedure hn⟩).tail
        ⟨(), .rest (Nat.zero_le _) id⟩
  | expire hremoved hrunning =>
    refine Relation.ReflTransGen.single ⟨(), rest_of rfl rfl fun harmed => ⟨?_, rfl⟩⟩
    rw [armed, Bool.and_eq_true] at harmed ⊢
    exact ⟨by rw [hrunning]; rfl, harmed.2⟩
  | timer hremoved hexpiries => exact Relation.ReflTransGen.single ⟨(), view_of_timer hexpiries⟩
  | others => exact Relation.ReflTransGen.refl

/-- In every run, whatever the order of messages and expiries, the UE is asked at most
`t3489MaxCount + 1` times for each request and each response that it has sent. -/
theorem esmInformationRequests_le (hs : s.Initial) (h : Lts.Reaches Step s t) :
    t.sent ≤ (t3489MaxCount + 1) * t.procedures := by
  have hview := h.simulate (fun _ _ _ hstep => Step.view hstep)
  rw [view_of_initial hs] at hview
  exact Retransmission.sent_le_of_reaches hview

/-- A bearer of a UE without a subscription. -/
def fresh : Esm 0 where
  subscriptionData := .cleared 0
  sess := ⟨0, none, none⟩
  sm := .inactive
  t3489 := .clear
  running := false
  expiries := 0
  removed := false
  log := []

theorem initial_fresh : fresh.Initial := ⟨rfl, rfl, rfl, rfl, rfl, rfl⟩

/-- A request with the flag set, and an expiry after which the UE is asked again. -/
theorem esmInformationRequests_le_one : ∃ t : Esm 0, Lts.Reaches Step fresh t ∧ t.sent = 2 ∧
    t.sent ≤ (t3489MaxCount + 1) * t.procedures := by
  obtain ⟨t, ht, hremoved, hrunning, hexpiries, hsent⟩ : ∃ t, fresh.mmeEsmMessage {}
      (.pdnConnectivityRequest ⟨1, some true, none, none⟩) = .ok t ∧ t.removed = false ∧
      t.running = true ∧ 0 < (t.expire true).expiries ∧
      ((t.expire true).dequeue.mmeEsmTimer {}).sent = 2 :=
    ⟨_, rfl, rfl, rfl, Nat.one_pos, rfl⟩
  have hreaches : Lts.Reaches Step fresh ((t.expire true).dequeue.mmeEsmTimer {}) :=
    ((Relation.ReflTransGen.single ⟨_, .message rfl ht⟩).tail
      ⟨_, .expire hremoved hrunning⟩).tail ⟨_, .timer hremoved hexpiries⟩
  exact ⟨_, hreaches, hsent, esmInformationRequests_le initial_fresh hreaches⟩

end Esm
end NextEpc

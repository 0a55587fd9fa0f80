import NextEpc.Mme.EsmRequests

/-!
# UEs that do not answer

What the MME does for a bearer of which it has asked the UE for its ESM information, in every run
without a further message of the UE.
-/

namespace NextEpc
namespace Esm
variable {maxNumOfSess : Nat} {s t u : Esm maxNumOfSess} {env : EsmEnv}

/-- A step that is not a message of the UE. -/
def Label.silent : Label maxNumOfSess → Bool
  | .message _ _ => false
  | _ => true

def Label.isTimer : Label maxNumOfSess → Bool
  | .timer _ => true
  | _ => false

/-- The expiries that are handled in a run. -/
def timers (tr : List (Label maxNumOfSess × Esm maxNumOfSess)) : Nat :=
  tr.countP fun p => p.1.isTimer

theorem timers_cons (label : Label maxNumOfSess) (t : Esm maxNumOfSess)
    (tr : List (Label maxNumOfSess × Esm maxNumOfSess)) :
    timers ((label, t) :: tr) = timers tr + if label.isTimer then 1 else 0 :=
  List.countP_cons ..

/-- The UE has been asked with `esmbuf` and then a number of times again. -/
structure Asked (esmbuf : Bytes) (retries : Nat) (s : Esm maxNumOfSess) : Prop where
  sm : s.sm = .inactive
  t3489 : s.t3489 = ⟨some esmbuf, retries⟩
  le : retries ≤ t3489MaxCount

section
variable {esmbuf : Bytes} {retries : Nat}

/-- It is asked again with the same message. -/
theorem Asked.again (env : EsmEnv) (h : Asked esmbuf retries s) (hlt : retries < t3489MaxCount) :
    Asked esmbuf (retries + 1) (s.dequeue.mmeEsmTimer env) ∧
      (s.dequeue.mmeEsmTimer env).log = .esmInformationRequest esmbuf :: s.log := by
  have hretries : s.dequeue.t3489.retryCount < t3489MaxCount := by
    rw [dequeue, h.t3489]
    exact hlt
  rw [mmeEsmTimer_again (s := s.dequeue) h.sm hretries, dequeue, h.t3489]
  exact ⟨⟨h.sm, rfl, hlt⟩, rfl⟩

/-- After the last retry the request for the PDN is rejected. -/
theorem Asked.reject (env : EsmEnv) (h : Asked esmbuf t3489MaxCount s) :
    (s.dequeue.mmeEsmTimer env).sm = .exception ∧ (s.dequeue.mmeEsmTimer env).log =
      .pdnConnectivityReject env.registered esmCauseEsmInformationNotReceived :: s.log := by
  have hretries : t3489MaxCount ≤ s.dequeue.t3489.retryCount := by
    rw [dequeue, h.t3489]
  rw [mmeEsmTimer_reject (s := s.dequeue) h.sm hretries]
  exact ⟨rfl, rfl⟩

/-- A step that is not a message changes nothing here unless it handles an expiry. -/
theorem Step.silent_cases {label : Label maxNumOfSess} (h : Step s label t)
    (hsilent : label.silent = true) :
    (label.isTimer = false ∧ t.sm = s.sm ∧ t.t3489 = s.t3489 ∧ t.log = s.log) ∨
      ∃ env, label = .timer env ∧ t = s.dequeue.mmeEsmTimer env := by
  cases h with
  | message => cases hsilent
  | expire => exact .inl ⟨rfl, rfl, rfl, rfl⟩
  | timer => exact .inr ⟨_, rfl, rfl⟩
  | others => exact .inl ⟨rfl, rfl, rfl, rfl⟩

/-- In the state `exception` nothing more is done without a message of the UE. -/
theorem exception_of_silent {tr : List (Label maxNumOfSess × Esm maxNumOfSess)}
    (h : Lts.Trace Step s tr) (hsilent : ∀ p ∈ tr, p.1.silent = true) (hsm : s.sm = .exception) :
    (Lts.finalState s tr).sm = .exception ∧ (Lts.finalState s tr).log = s.log := by
  induction h with
  | nil => exact ⟨hsm, rfl⟩
  | @cons s t label tr hstep _ ih =>
    have hkeeps : t.sm = .exception ∧ t.log = s.log := by
      rcases hstep.silent_cases (hsilent _ List.mem_cons_self) with
        ⟨-, hsm', -, hlog⟩ | ⟨env, -, rfl⟩
      · exact ⟨hsm'.trans hsm, hlog⟩
      · have hne : s.dequeue.sm ≠ .inactive := by simp [dequeue, hsm]
        rw [mmeEsmTimer_of_ne hne]
        exact ⟨hsm, rfl⟩
    rw [Lts.finalState, ← hkeeps.2]
    exact ih (fun p hp => hsilent p (List.mem_cons_of_mem _ hp)) hkeeps.1

/-- What a UE gets that does not answer, for any number of expiries. -/
theorem Asked.silent {tr : List (Label maxNumOfSess × Esm maxNumOfSess)}
    (h : Lts.Trace Step s tr) (hsilent : ∀ p ∈ tr, p.1.silent = true)
    (hasked : Asked esmbuf retries s) :
    if retries + timers tr ≤ t3489MaxCount then
      Asked esmbuf (retries + timers tr) (Lts.finalState s tr) ∧ (Lts.finalState s tr).log =
        List.replicate (timers tr) (.esmInformationRequest esmbuf) ++ s.log
    else (Lts.finalState s tr).sm = .exception ∧
      ∃ registered, (Lts.finalState s tr).log =
        .pdnConnectivityReject registered esmCauseEsmInformationNotReceived ::
          List.replicate (t3489MaxCount - retries) (.esmInformationRequest esmbuf) ++ s.log := by
  induction h generalizing retries with
  | nil =>
    rw [if_pos (by exact hasked.le)]
    exact ⟨hasked, rfl⟩
  | @cons s t label tr hstep htr ih =>
    have hrest : ∀ p ∈ tr, p.1.silent = true := fun p hp => hsilent p (List.mem_cons_of_mem _ hp)
    rcases hstep.silent_cases (hsilent _ List.mem_cons_self) with
      ⟨hlabel, hsm, ht3489, hlog⟩ | ⟨env, rfl, rfl⟩
    · have htimers : timers ((label, t) :: tr) = timers tr := by
        rw [timers_cons, hlabel]
        rfl
      have hnext : Asked esmbuf retries t :=
        ⟨hsm.trans hasked.sm, ht3489.trans hasked.t3489, hasked.le⟩
      rw [htimers, ← hlog]
      exact ih hrest hnext
    · have htimers : timers ((Label.timer env, s.dequeue.mmeEsmTimer env) :: tr) =
          timers tr + 1 := timers_cons ..
      rw [htimers]
      rcases hasked.le.lt_or_eq with hlt | rfl
      · obtain ⟨hnext, hlog⟩ := hasked.again env hlt
        have hih := ih hrest hnext
        rw [hlog] at hih
        split_ifs at hih with hle
        · rw [if_pos (by omega), ← Nat.add_assoc, Nat.add_right_comm, List.replicate_succ',
            List.append_assoc]
          exact hih
        · obtain ⟨hfinal, registered, hfinalLog⟩ := hih
          have hretries : t3489MaxCount - retries = t3489MaxCount - (retries + 1) + 1 := by omega
          rw [if_neg (by omega), hretries, List.replicate_succ']
          refine ⟨hfinal, registered, ?_⟩
          rw [List.cons_append, List.append_assoc]
          exact hfinalLog
      · obtain ⟨hsm, hlog⟩ := hasked.reject env
        obtain ⟨hfinal, hfinalLog⟩ := exception_of_silent htr hrest hsm
        rw [if_neg (by omega)]
        refine ⟨hfinal, env.registered, ?_⟩
        rw [Lts.finalState, hfinalLog, hlog, Nat.sub_self]
        rfl

end

section
variable {request : PdnConnectivityRequest} {r : Esm maxNumOfSess × Rv}
  {tr : List (Label maxNumOfSess × Esm maxNumOfSess)}

/-- The session may have a PDN before the UE is asked; the rest of the bearer is as it was. -/
theorem esmHandlePdnConnectivityRequest_asks
    (hflag : request.esmInformationTransferFlag = some true)
    (hfound : ∀ apn ∈ request.accessPointName, (mmePdnFindByApn s.subscriptionData apn).isSome)
    (h : s.esmHandlePdnConnectivityRequest env request = .ok r) :
    ∃ sess, r = (({ s with sess := sess }).clearT3489.nasSendEsmInformationRequest env, .ok) := by
  obtain ⟨_, _, h⟩ := Fallible.bind_eq_ok.mp h
  obtain ⟨_, _, h⟩ := Fallible.bind_eq_ok.mp h
  have hpco (u : Esm maxNumOfSess) (pco : Option Bytes) :
      ∃ sess, u.storePco pco = { u with sess := sess } := by
    cases pco <;> exact ⟨_, rfl⟩
  cases hapn : request.accessPointName with
  | none =>
    rw [hapn, hflag] at h
    have hr := Except.ok.inj h
    obtain ⟨sess, hsess⟩ := hpco _ request.protocolConfigurationOptions
    rw [findPdn, hsess] at hr
    exact ⟨sess, hr.symm⟩
  | some apn =>
    obtain ⟨pdn, hpdn⟩ := Option.isSome_iff_exists.mp (hfound apn hapn)
    rw [hapn, hflag] at h
    simp only [findPdn, setPdn, hpdn] at h
    have hr := Except.ok.inj h
    obtain ⟨sess, hsess⟩ := hpco _ request.protocolConfigurationOptions
    rw [hsess] at hr
    exact ⟨sess, hr.symm⟩

/-- A request that is counted, and the question for it. -/
def ask (s : Esm maxNumOfSess) (env : EsmEnv) (request : PdnConnectivityRequest)
    (sess : EsmSess) : Esm maxNumOfSess :=
  (({ s with sess := sess }).say (.message (.pdnConnectivityRequest request))).clearT3489
    |>.nasSendEsmInformationRequest env

theorem request_of_inactive (hsm : s.sm = .inactive)
    (hflag : request.esmInformationTransferFlag = some true)
    (hfound : ∀ apn ∈ request.accessPointName, (mmePdnFindByApn s.subscriptionData apn).isSome)
    (h : s.mmeEsmMessage env (.pdnConnectivityRequest request) = .ok t) :
    ∃ sess, t = s.ask env request sess := by
  obtain ⟨u, hu, h⟩ := Fallible.bind_eq_ok.mp h
  have hsay : (s.say (.message (.pdnConnectivityRequest request))).sm = .inactive := hsm
  rw [esmStateMessage, hsay] at hu
  obtain ⟨r, hr, hu⟩ := Fallible.bind_eq_ok.mp hu
  obtain ⟨sess, rfl⟩ := esmHandlePdnConnectivityRequest_asks
    (s := s.say (.message (.pdnConnectivityRequest request))) hflag hfound hr
  have hu := Except.ok.inj hu
  have hask : u = s.ask env request sess := hu.symm
  have hstate : u.sm = .inactive := by rw [hask]; exact hsm
  rw [ogsFsmEnter, hsm, if_pos hstate, afterMessage, hstate] at h
  exact ⟨sess, (Except.ok.inj h).symm.trans hask⟩

/-- T3489 is stopped by the state that is entered with the request. -/
theorem request_of_active (hsm : s.sm = .active)
    (hflag : request.esmInformationTransferFlag = some true)
    (hfound : ∀ apn ∈ request.accessPointName, (mmePdnFindByApn s.subscriptionData apn).isSome)
    (h : s.mmeEsmMessage env (.pdnConnectivityRequest request) = .ok t) :
    ∃ sess, t = ((s.ask env request sess).fsmTran .inactive).clearT3489 := by
  obtain ⟨u, hu, h⟩ := Fallible.bind_eq_ok.mp h
  have hsay : (s.say (.message (.pdnConnectivityRequest request))).sm = .active := hsm
  rw [esmStateMessage, hsay] at hu
  obtain ⟨r, hr, hu⟩ := Fallible.bind_eq_ok.mp hu
  obtain ⟨sess, rfl⟩ := esmHandlePdnConnectivityRequest_asks
    (s := s.say (.message (.pdnConnectivityRequest request))) hflag hfound hr
  have hu := Except.ok.inj hu
  have hask : u = (s.ask env request sess).fsmTran .inactive := hu.symm
  rw [hask, ogsFsmEnter, hsm] at h
  exact ⟨sess, (Except.ok.inj h).symm⟩

/-- Nothing happens to a bearer for which no timer runs. -/
theorem still_of_silent (h : Lts.Trace Step s tr) (hsilent : ∀ p ∈ tr, p.1.silent = true)
    (hrunning : s.running = false) (hexpiries : s.expiries = 0) :
    (Lts.finalState s tr).sm = s.sm ∧ (Lts.finalState s tr).log = s.log := by
  induction h with
  | nil => exact ⟨rfl, rfl⟩
  | @cons s t label tr hstep _ ih =>
    have hrest : ∀ p ∈ tr, p.1.silent = true := fun p hp => hsilent p (List.mem_cons_of_mem _ hp)
    cases hstep with
    | message => cases hsilent _ List.mem_cons_self
    | expire _ htrue =>
      rw [hrunning] at htrue
      cases htrue
    | timer _ hpos => exact absurd hexpiries hpos.ne'
    | others => exact ih hrest hrunning hexpiries

/-- A UE that asks for another PDN on an active bearer is asked once: T3489 is stopped as soon as
it has been started, so that neither the question is repeated nor the request rejected. -/
theorem still_of_request (hsm : s.sm = .active) (hexpiries : s.expiries = 0)
    (hflag : request.esmInformationTransferFlag = some true)
    (hfound : ∀ apn ∈ request.accessPointName, (mmePdnFindByApn s.subscriptionData apn).isSome)
    (h : s.mmeEsmMessage env (.pdnConnectivityRequest request) = .ok t)
    (htr : Lts.Trace Step t tr) (hsilent : ∀ p ∈ tr, p.1.silent = true) :
    (Lts.finalState t tr).sm = .inactive ∧ (Lts.finalState t tr).log =
      .esmInformationRequest env.esmbuf :: .message (.pdnConnectivityRequest request) :: s.log := by
  obtain ⟨sess, rfl⟩ := request_of_active hsm hflag hfound h
  exact still_of_silent htr hsilent rfl hexpiries

/-- A bearer without a subscription that has become active. -/
theorem still_of_request_fresh : ∃ t : Esm 0, t.sm = .inactive ∧ t.log =
    [.esmInformationRequest [], .message (.pdnConnectivityRequest ⟨1, some true, none, none⟩)] := by
  obtain ⟨t, ht⟩ : ∃ t, (fresh.fsmTran .active).mmeEsmMessage {}
      (.pdnConnectivityRequest ⟨1, some true, none, none⟩) = .ok t := ⟨_, rfl⟩
  have hothers : Step t (.others (.cleared 0) t.sess)
      { t with subscriptionData := .cleared 0, sess := t.sess } := .others (by cases ht; rfl)
  have htr := Lts.Trace.cons hothers (Lts.Trace.nil _)
  exact ⟨_, still_of_request (s := fresh.fsmTran .active) rfl rfl rfl (by simp) ht htr
    (by simp [Label.silent])⟩

end

end Esm
end NextEpc

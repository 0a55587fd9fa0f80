import NextEpc.Mme.EsmSilent
import NextEpc.Mme.PdnSelection

/-!
# Expiries of a timer that has been stopped

What the MME does for a bearer whose UE has answered while T3489 had expired already: the response
stops the timer, and the event stays in the queue. It is the order in which `mme_main` takes events
out of the queue, with none left before the next message, that keeps this from happening.
-/

namespace NextEpc
namespace Esm
variable {maxNumOfSess : Nat} {s t : Esm maxNumOfSess} {env : EsmEnv}
  {response : EsmInformationResponse} {tr : List (Label maxNumOfSess × Esm maxNumOfSess)}

/-- T3489 has been stopped, with a number of expiries in the queue. -/
structure Stopped (n : Nat) (s : Esm maxNumOfSess) : Prop where
  t3489 : s.t3489 = .clear
  running : s.running = false
  expiries : s.expiries = n
  removed : s.removed = false

section
variable {n : Nat}

/-! ## The step of the response -/

theorem Stopped.say (call : EsmEntry) (h : Stopped n s) : Stopped n (s.say call) :=
  ⟨h.t3489, h.running, h.expiries, h.removed⟩

theorem Stopped.findPdn (apn : Option CString) (h : Stopped n s) : Stopped n (s.findPdn apn) := by
  cases apn <;> exact ⟨h.t3489, h.running, h.expiries, h.removed⟩

theorem Stopped.storePco (pco : Option Bytes) (h : Stopped n s) : Stopped n (s.storePco pco) := by
  cases pco <;> exact ⟨h.t3489, h.running, h.expiries, h.removed⟩

theorem Stopped.createSessionOrReject (env : EsmEnv) (h : Stopped n s) :
    Stopped n (s.createSessionOrReject env).1 := by
  unfold Esm.createSessionOrReject
  cases s.sess.pdn with
  | none => exact h.say _
  | some pdn => exact h.say _

theorem Stopped.esmHandleInformationResponse (env : EsmEnv) (response : EsmInformationResponse)
    (h : Stopped n s) : Stopped n (s.esmHandleInformationResponse env response).1 := by
  have hstore := (h.findPdn response.accessPointName).storePco
    response.protocolConfigurationOptions
  unfold Esm.esmHandleInformationResponse
  dsimp only
  split
  · exact hstore.say _
  · exact hstore.createSessionOrReject env

theorem Stopped.unlessError {r : Esm maxNumOfSess × Rv} (h : Stopped n r.1) :
    Stopped n (unlessError id r) := by
  unfold Esm.unlessError
  split
  · exact h
  · exact ⟨h.t3489, h.running, h.expiries, h.removed⟩

theorem Stopped.ogsFsmEnter (source : EsmState) (h : Stopped n s) :
    Stopped n (s.ogsFsmEnter source) := by
  unfold Esm.ogsFsmEnter esmStateEntry
  split
  · exact h
  · split
    · exact ⟨rfl, rfl, h.expiries, h.removed⟩
    · exact ⟨rfl, rfl, h.expiries, h.removed⟩
    · exact h

/-- Nothing is done behind the dispatch for a bearer that is inactive then. -/
theorem eq_of_afterMessage (ht : t.sm = .inactive) (h : s.afterMessage env = .ok t) : t = s := by
  unfold afterMessage at h
  split at h
  · next hs =>
    cases Except.ok.inj h
    cases hs.symm.trans ht
  · next hs =>
    obtain ⟨_, _, h⟩ := Fallible.bind_eq_ok.mp h
    cases Except.ok.inj h
    cases hs.symm.trans ht
  · next hs =>
    cases Except.ok.inj h
    cases hs.symm.trans ht
  · exact (Except.ok.inj h).symm

/-- The response stops T3489 and leaves its expiries in the queue. -/
theorem stopped_of_response (hsm : s.sm = .inactive) (hremoved : s.removed = false)
    (h : s.mmeEsmMessage env (.esmInformationResponse response) = .ok t) (ht : t.sm = .inactive) :
    Stopped s.expiries t := by
  obtain ⟨u, hu, hafter⟩ := Fallible.bind_eq_ok.mp h
  have hsay : (s.say (.message (.esmInformationResponse response))).sm = .inactive := hsm
  rw [esmStateMessage, hsay] at hu
  have hclear : Stopped s.expiries
      (s.say (.message (.esmInformationResponse response))).clearT3489 :=
    ⟨rfl, rfl, rfl, hremoved⟩
  have hstopped : Stopped s.expiries u := by
    rw [← Except.ok.inj hu]
    exact (hclear.esmHandleInformationResponse env response).unlessError
  have henter := hstopped.ogsFsmEnter s.sm
  rw [eq_of_afterMessage ht hafter]
  exact henter

/-! ## The runs that follow -/

/-- The first of the expiries that is handled starts the questions anew. -/
theorem asked_of_clear (env : EsmEnv) (hsm : s.sm = .inactive) (ht3489 : s.t3489 = .clear) :
    Asked env.esmbuf 1 (s.dequeue.mmeEsmTimer env) ∧
      (s.dequeue.mmeEsmTimer env).log = .esmInformationRequest env.esmbuf :: s.log := by
  have hretries : s.dequeue.t3489.retryCount < t3489MaxCount := by
    rw [dequeue, ht3489]
    decide
  rw [mmeEsmTimer_again (s := s.dequeue) hsm hretries, dequeue, ht3489]
  exact ⟨⟨hsm, rfl, by decide⟩, rfl⟩

/-- Without any in the queue none is handled. -/
theorem Stopped.timers_eq_zero (htr : Lts.Trace Step s tr)
    (hsilent : ∀ p ∈ tr, p.1.silent = true) (h : Stopped 0 s) : timers tr = 0 := by
  induction htr with
  | nil => rfl
  | @cons s t label tr hstep _ ih =>
    have hrest : ∀ p ∈ tr, p.1.silent = true := fun p hp => hsilent p (List.mem_cons_of_mem _ hp)
    cases hstep with
    | message => cases hsilent _ List.mem_cons_self
    | expire _ hrunning =>
      rw [h.running] at hrunning
      cases hrunning
    | timer _ hpos => exact absurd h.expiries hpos.ne'
    | others =>
      rw [timers_cons]
      exact ih hrest ⟨h.t3489, h.running, h.expiries, h.removed⟩

/-- What a UE gets for them that does not answer once more. -/
theorem silent_of_clear (htr : Lts.Trace Step s tr) (hsilent : ∀ p ∈ tr, p.1.silent = true)
    (hsm : s.sm = .inactive) (ht3489 : s.t3489 = .clear) :
    ∃ esmbuf, if timers tr ≤ t3489MaxCount then
      (Lts.finalState s tr).sm = .inactive ∧ (Lts.finalState s tr).log =
        List.replicate (timers tr) (.esmInformationRequest esmbuf) ++ s.log
    else (Lts.finalState s tr).sm = .exception ∧
      ∃ registered, (Lts.finalState s tr).log =
        .pdnConnectivityReject registered esmCauseEsmInformationNotReceived ::
          List.replicate t3489MaxCount (.esmInformationRequest esmbuf) ++ s.log := by
  induction htr with
  | nil => exact ⟨[], hsm, rfl⟩
  | @cons s t label tr hstep htr ih =>
    have hrest : ∀ p ∈ tr, p.1.silent = true := fun p hp => hsilent p (List.mem_cons_of_mem _ hp)
    rcases hstep.silent_cases (hsilent _ List.mem_cons_self) with
      ⟨hlabel, hsm', ht3489', hlog⟩ | ⟨env, rfl, rfl⟩
    · have htimers : timers ((label, t) :: tr) = timers tr := by
        rw [timers_cons, hlabel]
        rfl
      rw [htimers, ← hlog]
      exact ih hrest (hsm'.trans hsm) (ht3489'.trans ht3489)
    · have htimers : timers ((Label.timer env, s.dequeue.mmeEsmTimer env) :: tr) =
          timers tr + 1 := timers_cons ..
      obtain ⟨hasked, hlog⟩ := asked_of_clear env hsm ht3489
      have hrun := hasked.silent htr hrest
      refine ⟨env.esmbuf, ?_⟩
      rw [htimers]
      rw [hlog, Nat.add_comm] at hrun
      split_ifs at hrun ⊢ with hle
      · rw [List.replicate_succ', List.append_assoc]
        exact ⟨hrun.1.sm, hrun.2⟩
      · obtain ⟨hfinal, registered, hfinalLog⟩ := hrun
        refine ⟨hfinal, registered, ?_⟩
        have hmax : t3489MaxCount = t3489MaxCount - 1 + 1 := rfl
        rw [hmax, List.replicate_succ', List.cons_append, List.append_assoc]
        exact hfinalLog

/-- The question for an expiry starts T3489 anew. -/
theorem running_of_again (env : EsmEnv) (hsm : s.sm = .inactive)
    (hlt : s.t3489.retryCount < t3489MaxCount) :
    (s.dequeue.mmeEsmTimer env).running = true ∧
      (s.dequeue.mmeEsmTimer env).removed = s.removed := by
  rw [mmeEsmTimer_again (s := s.dequeue) hsm hlt]
  exact ⟨rfl, rfl⟩

/-- T3489 expires and the expiry is handled. -/
theorem trace_expired (env : EsmEnv) (hrunning : s.running = true) (hremoved : s.removed = false)
    (htr : Lts.Trace Step ((s.expire true).dequeue.mmeEsmTimer env) tr) :
    Lts.Trace Step s ((.expire true, s.expire true) ::
      (.timer env, (s.expire true).dequeue.mmeEsmTimer env) :: tr) :=
  .cons (.expire hremoved hrunning) (.cons (.timer hremoved (Nat.succ_pos _)) htr)

/-- A UE that has been asked is rejected in the end if it does not answer. -/
theorem Asked.exists_exception {esmbuf : Bytes} {retries : Nat} (h : Asked esmbuf retries s)
    (hrunning : s.running = true) (hremoved : s.removed = false) :
    ∃ tr, Lts.Trace Step s tr ∧ (∀ p ∈ tr, p.1.silent = true) ∧
      (Lts.finalState s tr).sm = .exception := by
  -- On the retries that are left.
  obtain ⟨left, hleft⟩ := Nat.exists_eq_add_of_le h.le
  induction left generalizing s retries with
  | zero =>
    cases hleft
    have hasked : Asked esmbuf t3489MaxCount (s.expire true) := ⟨h.sm, h.t3489, h.le⟩
    refine ⟨_, trace_expired {} hrunning hremoved (.nil _), by simp [Label.silent], ?_⟩
    exact (hasked.reject {}).1
  | succ left ih =>
    have hlt : retries < t3489MaxCount := by omega
    have hasked : Asked esmbuf retries (s.expire true) := ⟨h.sm, h.t3489, h.le⟩
    have hretries : (s.expire true).t3489.retryCount < t3489MaxCount := by
      rw [hasked.t3489]
      exact hlt
    obtain ⟨hrunning', hremoved'⟩ := running_of_again {} hasked.sm hretries
    obtain ⟨tr, htr, hsilent, hfinal⟩ := ih (hasked.again {} hlt).1 hrunning'
      (hremoved'.trans hremoved) (by omega)
    refine ⟨_, trace_expired {} hrunning hremoved htr, ?_, hfinal⟩
    simpa [Label.silent] using hsilent

end

/-! ## The response of a UE -/

/-- A UE whose T3489 has expired, with one PDN in its subscription. -/
def expired : Esm 1 where
  subscriptionData := { SubscriptionData.cleared 1 with
    pdn := [.cleared]
    pdn_le := le_rfl }
  sess := ⟨1, none, none⟩
  sm := .inactive
  t3489 := ⟨some [], 0⟩
  running := false
  expiries := 1
  removed := false
  log := []

/-- Whether a UE whose response is accepted can still be rejected without a further message of it
depends on the queue alone. -/
theorem exists_exception_iff (hsm : s.sm = .inactive) (hremoved : s.removed = false)
    (h : s.mmeEsmMessage env (.esmInformationResponse response) = .ok t) (ht : t.sm = .inactive) :
    (∃ tr, Lts.Trace Step t tr ∧ (∀ p ∈ tr, p.1.silent = true) ∧
      (Lts.finalState t tr).sm = .exception) ↔ 0 < s.expiries := by
  have hstopped := stopped_of_response hsm hremoved h ht
  constructor
  · rintro ⟨tr, htr, hsilent, hfinal⟩
    by_contra hzero
    have hexpiries : s.expiries = 0 := Nat.eq_zero_of_not_pos hzero
    rw [hexpiries] at hstopped
    have hstill := (still_of_silent htr hsilent hstopped.running hstopped.expiries).1
    cases hfinal.symm.trans (hstill.trans ht)
  · intro hpos
    have hretries : t.t3489.retryCount < t3489MaxCount := by
      rw [hstopped.t3489]
      decide
    have htimer : Step t (.timer {}) (t.dequeue.mmeEsmTimer {}) :=
      .timer hstopped.removed (hstopped.expiries ▸ hpos)
    obtain ⟨hrunning, hremoved'⟩ := running_of_again {} ht hretries
    obtain ⟨tr, htr, hsilent, hfinal⟩ :=
      (asked_of_clear {} ht hstopped.t3489).1.exists_exception hrunning
        (hremoved'.trans hstopped.removed)
    refine ⟨_, .cons htimer htr, ?_, hfinal⟩
    simpa [Label.silent] using hsilent

theorem exists_exception_of_expired : ∃ t : Esm 1, ∃ tr, Lts.Trace Step t tr ∧
    (∀ p ∈ tr, p.1.silent = true) ∧ (Lts.finalState t tr).sm = .exception := by
  obtain ⟨t, ht, hsm⟩ : ∃ t, expired.mmeEsmMessage {}
      (.esmInformationResponse ⟨some (.copy []), none⟩) = .ok t ∧ t.sm = .inactive := ⟨_, rfl, rfl⟩
  exact ⟨t, (exists_exception_iff (s := expired) rfl rfl ht hsm).mpr Nat.one_pos⟩

end Esm
end NextEpc

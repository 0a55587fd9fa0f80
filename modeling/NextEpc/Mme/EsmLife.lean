import NextEpc.Mme.EsmRequests

/-!
# The life of a bearer

The changes of state of a bearer, with what they say about every run: nothing leads out of the
state `exception`, and what a UE must have accepted before its bearer is removed.
-/

namespace NextEpc
namespace Esm
variable {maxNumOfSess : Nat} {s t u : Esm maxNumOfSess} {env : EsmEnv} {message : EsmMessage}

end Esm

/-- A message by which a UE accepts the activation of a bearer. -/
def EsmMessage.isActivation : EsmMessage → Bool
  | .activateDefaultEpsBearerContextAccept | .activateDedicatedEpsBearerContextAccept => true
  | _ => false

/-- The changes of state that a message can lead to. -/
inductive EsmMove : EsmState → EsmMessage → EsmState → Prop
  | stay {source : EsmState} {message : EsmMessage} : EsmMove source message source
  | fail {source : EsmState} {message : EsmMessage} (hmessage : message.isProcedure = true) :
      EsmMove source message .exception
  | ask {message : EsmMessage} (hmessage : message.isProcedure = true) :
      EsmMove .active message .inactive
  | activate {message : EsmMessage} (hmessage : message.isActivation = true) :
      EsmMove .inactive message .active
  | disconnect : EsmMove .active .pdnDisconnectRequest .pdnWillDisconnect
  | disconnected : EsmMove .pdnWillDisconnect .deactivateEpsBearerContextAccept .pdnDidDisconnect
  | deactivated : EsmMove .active .deactivateEpsBearerContextAccept .bearerDeactivated

namespace EsmMove
variable {source target : EsmState} {message : EsmMessage}

/-- A bearer is active after an activation only. -/
theorem of_active (h : EsmMove source message target)
    (htarget : target = .active ∨ target = .pdnWillDisconnect) :
    message.isActivation = true ∨ source = .active ∨ source = .pdnWillDisconnect := by
  cases h with
  | stay => exact .inr htarget
  | fail | ask | disconnected | deactivated =>
    rcases htarget with htarget | htarget <;> cases htarget
  | activate hmessage => exact .inl hmessage
  | disconnect => exact .inr (.inl rfl)

/-- It ends with a deactivation, from a state in which it is active. -/
theorem of_ended (h : EsmMove source message target)
    (htarget : target = .bearerDeactivated ∨ target = .pdnDidDisconnect) :
    (source = .bearerDeactivated ∨ source = .pdnDidDisconnect) ∨
      message = .deactivateEpsBearerContextAccept ∧
        (source = .active ∨ source = .pdnWillDisconnect) := by
  cases h with
  | stay => exact .inl htarget
  | fail | ask | activate | disconnect => rcases htarget with htarget | htarget <;> cases htarget
  | disconnected => exact .inr ⟨rfl, .inr rfl⟩
  | deactivated => exact .inr ⟨rfl, .inl rfl⟩

end EsmMove

namespace Esm
variable {maxNumOfSess : Nat} {s t u : Esm maxNumOfSess} {env : EsmEnv} {message : EsmMessage}

/-- The two fields that say how far the life of a bearer has come. -/
def life (s : Esm maxNumOfSess) : EsmState × Bool := (s.sm, s.removed)

theorem findPdn_life (apn : Option CString) : (s.findPdn apn).life = s.life := by
  cases apn <;> rfl

theorem storePco_life (pco : Option Bytes) : (s.storePco pco).life = s.life := by
  cases pco <;> rfl

theorem sayIf_life {path : Bool} {call : EsmEntry} : (s.sayIf path call).life = s.life := by
  cases path <;> rfl

theorem createSessionOrReject_life : (s.createSessionOrReject env).1.life = s.life := by
  unfold createSessionOrReject
  split <;> rfl

theorem connectPdn_life (required : Bool) : (s.connectPdn env required).1.life = s.life := by
  unfold connectPdn
  split_ifs
  · rfl
  · exact createSessionOrReject_life
  · exact createSessionOrReject_life

theorem esmHandlePdnConnectivityRequest_life {request : PdnConnectivityRequest}
    {r : Esm maxNumOfSess × Rv} (h : s.esmHandlePdnConnectivityRequest env request = .ok r) :
    r.1.life = s.life := by
  obtain ⟨_, _, h⟩ := Fallible.bind_eq_ok.mp h
  obtain ⟨_, _, h⟩ := Fallible.bind_eq_ok.mp h
  simp only at h
  split_ifs at h <;> cases h
  · exact findPdn_life _
  · rw [connectPdn_life, storePco_life, findPdn_life]
    rfl

theorem esmHandleInformationResponse_life {response : EsmInformationResponse} :
    (s.esmHandleInformationResponse env response).1.life = s.life := by
  have hlife : ((s.findPdn response.accessPointName).storePco
      response.protocolConfigurationOptions).life = s.life := by
    rw [storePco_life, findPdn_life]
  unfold esmHandleInformationResponse
  simp only
  split_ifs
  · exact hlife
  · exact hlife
  · exact createSessionOrReject_life.trans hlife

/-- A bearer comes to where its life is at by a message. -/
structure Moves (s : Esm maxNumOfSess) (message : EsmMessage) (t : Esm maxNumOfSess) : Prop where
  move : EsmMove s.sm message t.sm
  removed : t.removed = s.removed

theorem Moves.stay (h : t.life = s.life) : Moves s message t where
  move := by
    have hsm : t.sm = s.sm := congrArg Prod.fst h
    rw [hsm]
    exact .stay
  removed := congrArg Prod.snd h

/-- The target may be given beside a part of the step that leaves the life as it is. -/
theorem Moves.tran {target : EsmState} (h : u.life = s.life)
    (hmove : EsmMove s.sm message target) : Moves s message (u.fsmTran target) where
  move := hmove
  removed := congrArg Prod.snd h

theorem Moves.unlessError {next : Esm maxNumOfSess → Esm maxNumOfSess}
    {r : Esm maxNumOfSess × Rv} (hmessage : message.isProcedure = true) (h : r.1.life = s.life)
    (hnext : Moves s message (next r.1)) : Moves s message (unlessError next r) := by
  unfold Esm.unlessError
  split_ifs
  · exact hnext
  · exact .tran h (.fail hmessage)

theorem moves_of_inactive (h : s.esmStateInactive env message = .ok t) (hsm : s.sm = .inactive) :
    Moves s message t := by
  cases message with
  | pdnConnectivityRequest request =>
    obtain ⟨r, hr, h⟩ := Fallible.bind_eq_ok.mp h
    cases h
    have hlife := esmHandlePdnConnectivityRequest_life hr
    exact .unlessError rfl hlife (.stay hlife)
  | esmInformationResponse response =>
    cases h
    have hlife : (s.clearT3489.esmHandleInformationResponse env response).1.life = s.life :=
      esmHandleInformationResponse_life
    exact .unlessError rfl hlife (.stay hlife)
  | activateDefaultEpsBearerContextAccept =>
    cases h
    have hlife : ((s.sayIf env.enbS1uPath .modifyBearerRequest).say
        .activateDedicatedBearers).life = s.life := sayIf_life
    exact .tran hlife (hsm ▸ .activate rfl)
  | activateDedicatedEpsBearerContextAccept =>
    cases h
    exact .tran sayIf_life (hsm ▸ .activate rfl)
  | _ =>
    cases h
    exact .stay rfl

theorem moves_of_active (h : s.esmStateActive env message = .ok t) (hsm : s.sm = .active) :
    Moves s message t := by
  cases message with
  | pdnConnectivityRequest request =>
    obtain ⟨r, hr, h⟩ := Fallible.bind_eq_ok.mp h
    cases h
    have hlife := esmHandlePdnConnectivityRequest_life hr
    exact .unlessError rfl hlife (.tran hlife (hsm ▸ .ask rfl))
  | pdnDisconnectRequest =>
    cases h
    exact .tran rfl (hsm ▸ .disconnect)
  | modifyEpsBearerContextAccept =>
    cases h
    exact .stay rfl
  | deactivateEpsBearerContextAccept =>
    cases h
    exact .tran rfl (hsm ▸ .deactivated)
  | _ =>
    cases h
    exact .stay rfl

/-- What a state does with a message is one of these changes. -/
theorem moves_of_message (h : s.esmStateMessage env message = .ok t) : Moves s message t := by
  unfold esmStateMessage at h
  split at h
  case h_1 hsm => exact moves_of_inactive h hsm
  case h_2 hsm => exact moves_of_active h hsm
  case h_3 hsm =>
    cases h
    cases message with
    | deactivateEpsBearerContextAccept => exact .tran rfl (hsm ▸ .disconnected)
    | _ => exact .stay rfl
  all_goals
    cases h
    exact .stay rfl

theorem ogsFsmEnter_life (source : EsmState) : (s.ogsFsmEnter source).life = s.life := by
  unfold ogsFsmEnter esmStateEntry
  split_ifs
  · rfl
  · split <;> rfl

/-- The bearer has been deactivated, or its PDN disconnected. -/
def ended (s : Esm maxNumOfSess) : Prop := s.sm = .bearerDeactivated ∨ s.sm = .pdnDidDisconnect

theorem removed_of_afterMessage (h : s.afterMessage env = .ok t) :
    t.sm = s.sm ∧ (t.removed = true → s.removed = true ∨ s.ended) := by
  unfold afterMessage at h
  split at h
  case h_1 hsm =>
    cases h
    exact ⟨rfl, fun _ => .inr (.inl hsm)⟩
  case h_2 hsm =>
    obtain ⟨_, _, h⟩ := Fallible.bind_eq_ok.mp h
    cases h
    exact ⟨rfl, fun _ => .inr (.inr hsm)⟩
  all_goals
    cases h
    exact ⟨rfl, .inl⟩

theorem move_of_mmeEsmMessage (h : s.mmeEsmMessage env message = .ok t) :
    EsmMove s.sm message t.sm ∧ (t.removed = true → s.removed = true ∨ t.ended) := by
  obtain ⟨u, hu, h⟩ := Fallible.bind_eq_ok.mp h
  have hmoves := moves_of_message hu
  have hlife := ogsFsmEnter_life (s := u) s.sm
  obtain ⟨hsm, hremoved⟩ := removed_of_afterMessage h
  have huSm : t.sm = u.sm := hsm.trans (congrArg Prod.fst hlife)
  constructor
  · rw [huSm]
    exact hmoves.move
  · intro htrue
    rcases hremoved htrue with hbefore | hended
    · left
      exact hmoves.removed.symm.trans ((congrArg Prod.snd hlife).symm.trans hbefore)
    · right
      rw [ended, hsm]
      exact hended

/-- The messages of the UE in a run, in order. -/
def Label.messages : Label maxNumOfSess → List EsmMessage
  | .message _ message => [message]
  | _ => []

def messages (tr : List (Label maxNumOfSess × Esm maxNumOfSess)) : List EsmMessage :=
  tr.flatMap fun p => p.1.messages

/-- What a UE must have sent for its bearer to be where it is. -/
structure Lived (history : List EsmMessage) (s : Esm maxNumOfSess) : Prop where
  active : s.sm = .active ∨ s.sm = .pdnWillDisconnect →
    ∃ accept ∈ history, accept.isActivation = true
  ended : s.removed = true ∨ s.ended → ∃ accept, accept.isActivation = true ∧
    List.Sublist [accept, .deactivateEpsBearerContextAccept] history

section
variable {history : List EsmMessage}

theorem lived_of_initial (h : s.Initial) : Lived [] s where
  active hsm := by
    rw [h.sm] at hsm
    rcases hsm with hsm | hsm <;> cases hsm
  ended hended := by
    rw [ended, h.sm, h.removed] at hended
    rcases hended with hended | hended | hended <;> cases hended

/-- Two lives that are the same for what a UE must have sent. -/
theorem Lived.of_life (h : Lived history s) (hlife : t.life = s.life) : Lived history t where
  active hsm := h.active (by rwa [show t.sm = s.sm from congrArg Prod.fst hlife] at hsm)
  ended hended := h.ended (by
    rwa [Esm.ended, show t.sm = s.sm from congrArg Prod.fst hlife,
      show t.removed = s.removed from congrArg Prod.snd hlife] at hended)

theorem Lived.step_message (h : Lived history s) (hremoved : s.removed = false)
    (hmessage : s.mmeEsmMessage env message = .ok t) : Lived (history ++ [message]) t := by
  obtain ⟨hmove, hended⟩ := move_of_mmeEsmMessage hmessage
  constructor
  · intro hactive
    rcases hmove.of_active hactive with haccept | hbefore
    · exact ⟨message, List.mem_append_right _ (List.mem_singleton_self _), haccept⟩
    · obtain ⟨accept, hmem, haccept⟩ := h.active hbefore
      exact ⟨accept, List.mem_append_left _ hmem, haccept⟩
  · intro hends
    have ht : t.ended := by
      rcases hends with htrue | ht
      · exact (hended htrue).resolve_left (by simp [hremoved])
      · exact ht
    rcases hmove.of_ended ht with hbefore | ⟨rfl, hbefore⟩
    · obtain ⟨accept, haccept, hsub⟩ := h.ended (.inr hbefore)
      exact ⟨accept, haccept, hsub.trans (List.sublist_append_left _ _)⟩
    · obtain ⟨accept, hmem, haccept⟩ := h.active hbefore
      exact ⟨accept, haccept, (List.singleton_sublist.mpr hmem).append (List.Sublist.refl _)⟩

theorem Lived.fail (h : Lived history s) (hsm : t.sm = .exception)
    (hremoved : t.removed = s.removed) : Lived history t where
  active hactive := by
    rw [hsm] at hactive
    rcases hactive with hactive | hactive <;> cases hactive
  ended hended := by
    rw [Esm.ended, hsm, hremoved] at hended
    rcases hended with hended | hended | hended
    · exact h.ended (.inl hended)
    · cases hended
    · cases hended

theorem Lived.step_timer (h : Lived history s) : Lived history (s.dequeue.mmeEsmTimer env) := by
  by_cases hsm : s.dequeue.sm = .inactive
  · by_cases hretries : s.dequeue.t3489.retryCount < t3489MaxCount
    · rw [mmeEsmTimer_again hsm hretries]
      exact h.of_life rfl
    · rw [mmeEsmTimer_reject hsm (Nat.not_lt.mp hretries)]
      exact h.fail rfl rfl
  · rw [mmeEsmTimer_of_ne hsm]
    exact h.of_life rfl

theorem Lived.step {label : Label maxNumOfSess} (h : Lived history s) (hstep : Step s label t) :
    Lived (history ++ label.messages) t := by
  cases hstep with
  | message hremoved hmessage => exact h.step_message hremoved hmessage
  | expire =>
    simp only [Label.messages, List.append_nil]
    exact h.of_life rfl
  | timer =>
    simp only [Label.messages, List.append_nil]
    exact h.step_timer
  | others =>
    simp only [Label.messages, List.append_nil]
    exact h.of_life rfl

theorem Lived.trace {tr : List (Label maxNumOfSess × Esm maxNumOfSess)}
    (htr : Lts.Trace Step s tr) (h : Lived history s) :
    Lived (history ++ messages tr) (Lts.finalState s tr) := by
  induction htr generalizing history with
  | nil =>
    rw [messages, List.flatMap_nil, List.append_nil]
    exact h
  | cons hstep _ ih =>
    rw [messages, List.flatMap_cons, ← List.append_assoc]
    exact ih (h.step hstep)

end

end Esm
end NextEpc

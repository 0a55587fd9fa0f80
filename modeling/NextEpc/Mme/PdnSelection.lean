import NextEpc.Mme.EsmSm

/-!
# The PDN of a session

Which PDN of the database of the HSS a UE is connected to, by way of the answer to an
Update-Location-Request and of what the UE has asked for.
-/

namespace NextEpc
open S6a (rereadSubscription rereadPdn mmeS6aUlaCb hssUlrCb mmeS6aSendUlr mmeS6aUlaCb_hssUlrCb
  UlaMessage)

variable {maxNumOfSess : Nat} {data : SubscriptionData maxNumOfSess}

/-- The names of the PDNs are those in the database. -/
theorem mmePdnFindByApn_rereadSubscription (apn : CString) :
    mmePdnFindByApn (rereadSubscription data) apn = mmePdnFindByApn data apn := by
  unfold mmePdnFindByApn rereadSubscription
  have hfind (identifier : Nat → UInt32) (pdns : List OgsPdn) :
      (pdns.mapIdx fun i pdn => rereadPdn (identifier i) pdn).findIdx?
        (fun pdn => pdn.apn.toCString == apn) =
          pdns.findIdx? fun pdn => pdn.apn.toCString == apn := by
    induction pdns generalizing identifier with
    | nil => rfl
    | cons pdn pdns ih =>
      rw [List.mapIdx_cons, List.findIdx?_cons, List.findIdx?_cons,
        ih fun i => identifier (i + 1)]
      rfl
  exact hfind (fun i => UInt32.ofNat (i + 1)) data.pdn

/-- The default PDN is the first one, whatever the database says of its identifier. -/
theorem mmeDefaultPdn_rereadSubscription (hpdn : data.pdn ≠ []) :
    mmeDefaultPdn (rereadSubscription data) = some 0 := by
  obtain ⟨pdn, pdns, hdata⟩ := List.exists_cons_of_ne_nil hpdn
  simp only [mmeDefaultPdn, rereadSubscription, hdata, List.mapIdx_cons, List.findIdx?_cons]
  rfl

/-- The PDN that a UE asks for. The default one is for requests that do not name any, not for
responses that do not. -/
def EsmMessage.pdn (data : SubscriptionData maxNumOfSess) (default : Option Nat) :
    EsmMessage → Option Nat
  | .pdnConnectivityRequest request => request.accessPointName.elim default (mmePdnFindByApn data)
  | .esmInformationResponse response => response.accessPointName.bind (mmePdnFindByApn data)
  | _ => none

theorem EsmMessage.pdn_rereadSubscription (default : Option Nat) (message : EsmMessage) :
    message.pdn (rereadSubscription data) default = message.pdn data default := by
  cases message with
  | pdnConnectivityRequest request =>
    exact congrArg (request.accessPointName.elim default)
      (funext mmePdnFindByApn_rereadSubscription)
  | esmInformationResponse response =>
    exact congrArg response.accessPointName.bind (funext mmePdnFindByApn_rereadSubscription)
  | _ => rfl

/-- A message that settles the PDN of a session at once. -/
def EsmMessage.selects : EsmMessage → Bool
  | .pdnConnectivityRequest request => request.esmInformationTransferFlag != some true
  | .esmInformationResponse _ => true
  | _ => false

namespace Esm
variable {s t u : Esm maxNumOfSess} {env : EsmEnv} {message : EsmMessage}

/-- What is sent for a session that has a PDN or has none. -/
def settling (env : EsmEnv) : Option Nat → List EsmEntry
  | some pdn => [.createSessionRequest pdn]
  | none => [.deleteSessionOrUeContextRelease,
      .pdnConnectivityReject env.registered esmCauseMissingOrUnknownApn]

/-- What a bearer comes to with the answer to what its UE has asked for. -/
structure Settled (env : EsmEnv) (pdn : Option Nat) (s t : Esm maxNumOfSess) : Prop where
  sm : t.sm = if pdn.isSome then .inactive else .exception
  log : t.log = settling env pdn ++ s.log

/-- The end of a step whose handler has created the session or rejected the request. -/
theorem settled_of_createSessionOrReject (hlog : u.log = s.log) (hsm : u.sm = .inactive)
    (h : ((unlessError id (u.createSessionOrReject env)).ogsFsmEnter .inactive).afterMessage env =
      .ok t) : Settled env u.sess.pdn s t := by
  unfold createSessionOrReject at h
  cases hpdn : u.sess.pdn with
  | some pdn =>
    have hstate : (u.say (.createSessionRequest pdn)).sm = .inactive := hsm
    rw [hpdn] at h
    simp only [unlessError, if_true, id, ogsFsmEnter, hstate, afterMessage] at h
    cases Except.ok.inj h
    exact ⟨hstate, congrArg (EsmEntry.createSessionRequest pdn :: ·) hlog⟩
  | none =>
    rw [hpdn] at h
    cases Except.ok.inj h
    exact ⟨rfl, congrArg (settling env none ++ ·) hlog⟩

/-- A bearer like another one, but for its session. -/
structure Like (s u : Esm maxNumOfSess) : Prop where
  log : u.log = s.log
  sm : u.sm = s.sm
  subscriptionData : u.subscriptionData = s.subscriptionData

theorem storePco_like (pco : Option Bytes) : Like s (s.storePco pco) := by
  cases pco <;> exact ⟨rfl, rfl, rfl⟩

theorem Like.trans (h : Like s u) (h' : Like u t) : Like s t where
  log := h'.log.trans h.log
  sm := h'.sm.trans h.sm
  subscriptionData := h'.subscriptionData.trans h.subscriptionData

@[simp] theorem storePco_pdn (pco : Option Bytes) : (s.storePco pco).sess.pdn = s.sess.pdn := by
  cases pco <;> rfl

theorem createSessionOrReject_of_none (hpdn : s.sess.pdn = none) : s.createSessionOrReject env =
    (s.nasSendPdnConnectivityReject env esmCauseMissingOrUnknownApn, .error) := by
  rw [createSessionOrReject, hpdn]

/-- The default PDN is for a session that has none. -/
theorem connectPdn_false : s.connectPdn env false = match s.sess.pdn with
    | some _ => s.createSessionOrReject env
    | none => (s.setPdn (mmeDefaultPdn s.subscriptionData)).createSessionOrReject env := by
  unfold connectPdn
  cases s.sess.pdn <;> rfl

section
variable {request : PdnConnectivityRequest} {r : Esm maxNumOfSess × Rv}

/-- A request without the flag. -/
theorem request_selects (hpdn : s.sess.pdn = none)
    (hflag : request.esmInformationTransferFlag ≠ some true)
    (h : s.esmHandlePdnConnectivityRequest env request = .ok r) :
    ∃ u, Like s u ∧ r = u.createSessionOrReject env ∧ u.sess.pdn =
      request.accessPointName.elim (mmeDefaultPdn s.subscriptionData)
        (mmePdnFindByApn s.subscriptionData) := by
  have hrequired : request.esmInformationTransferFlag.getD false = false := by
    cases hget : request.esmInformationTransferFlag with
    | none => rfl
    | some required => cases required <;> simp_all
  obtain ⟨_, _, h⟩ := Fallible.bind_eq_ok.mp h
  obtain ⟨_, _, h⟩ := Fallible.bind_eq_ok.mp h
  rw [hrequired] at h
  let v : Esm maxNumOfSess := { s with sess := { s.sess with requestType := request.requestType } }
  have hlike : Like s v := ⟨rfl, rfl, rfl⟩
  cases hapn : request.accessPointName with
  | none =>
    rw [hapn] at h
    have hstore := storePco_like (s := v) request.protocolConfigurationOptions
    have hr : (v.storePco request.protocolConfigurationOptions).connectPdn env false = r :=
      Except.ok.inj h
    have hnone : (v.storePco request.protocolConfigurationOptions).sess.pdn = none := by
      rw [storePco_pdn]
      exact hpdn
    generalize v.storePco request.protocolConfigurationOptions = u at hstore hr hnone
    have hu : Like s u := hlike.trans hstore
    rw [connectPdn_false, hnone] at hr
    exact ⟨u.setPdn (mmeDefaultPdn u.subscriptionData), ⟨hu.log, hu.sm, hu.subscriptionData⟩,
      hr.symm, congrArg mmeDefaultPdn hu.subscriptionData⟩
  | some apn =>
    rw [hapn] at h
    cases hfind : mmePdnFindByApn s.subscriptionData apn with
    | none =>
      have hnone : (v.setPdn none).sess.pdn = none := rfl
      simp only [findPdn, hfind] at h
      refine ⟨v.setPdn none, ⟨rfl, rfl, rfl⟩, ?_, hfind.symm⟩
      rw [createSessionOrReject_of_none hnone]
      exact (Except.ok.inj h).symm
    | some pdn =>
      simp only [findPdn, hfind] at h
      have hstore := storePco_like (s := v.setPdn (some pdn)) request.protocolConfigurationOptions
      have hr : ((v.setPdn (some pdn)).storePco request.protocolConfigurationOptions).connectPdn
          env false = r := Except.ok.inj h
      have hsome : ((v.setPdn (some pdn)).storePco
          request.protocolConfigurationOptions).sess.pdn = some pdn := by
        rw [storePco_pdn]
        rfl
      rw [connectPdn_false, hsome] at hr
      exact ⟨_, ⟨hstore.log, hstore.sm, hstore.subscriptionData⟩, hr.symm,
        hsome.trans hfind.symm⟩

/-- A response in the course of an attach. -/
theorem response_selects (response : EsmInformationResponse) (hpdn : s.sess.pdn = none)
    (hsession : env.sessionContextIsAvailable = false) :
    ∃ u, Like s u ∧ s.esmHandleInformationResponse env response = u.createSessionOrReject env ∧
      u.sess.pdn = response.accessPointName.bind (mmePdnFindByApn s.subscriptionData) := by
  have hstore := storePco_like (s := s.findPdn response.accessPointName)
    response.protocolConfigurationOptions
  refine ⟨(s.findPdn response.accessPointName).storePco response.protocolConfigurationOptions,
    ?_, ?_, ?_⟩
  · refine Like.trans ?_ hstore
    cases response.accessPointName <;> exact ⟨rfl, rfl, rfl⟩
  · simp [esmHandleInformationResponse, hsession]
  · rw [storePco_pdn]
    cases response.accessPointName with
    | none => exact hpdn
    | some apn => rfl

end

/-- The step that settles the PDN of a session without one, whatever the subscription. -/
theorem settled_of_selects (hsm : s.sm = .inactive) (hpdn : s.sess.pdn = none)
    (hsession : env.sessionContextIsAvailable = false) (hselects : message.selects = true)
    (h : s.mmeEsmMessage env message = .ok t) :
    Settled env (message.pdn s.subscriptionData (mmeDefaultPdn s.subscriptionData))
      (s.say (.message message)) t := by
  obtain ⟨v, hv, hafter⟩ := Fallible.bind_eq_ok.mp h
  have hsay : (s.say (.message message)).sm = .inactive := hsm
  rw [esmStateMessage, hsay] at hv
  rw [hsm] at hafter
  cases message with
  | pdnConnectivityRequest request =>
    have hflag : request.esmInformationTransferFlag ≠ some true := by
      simpa [EsmMessage.selects] using hselects
    obtain ⟨r, hr, hv⟩ := Fallible.bind_eq_ok.mp hv
    obtain ⟨u, hlike, rfl, hu⟩ := request_selects
      (s := s.say (.message (.pdnConnectivityRequest request))) hpdn hflag hr
    rw [← Except.ok.inj hv] at hafter
    have hsettled := settled_of_createSessionOrReject hlike.log (hlike.sm.trans hsay) hafter
    rw [hu] at hsettled
    exact hsettled
  | esmInformationResponse response =>
    obtain ⟨u, hlike, hr, hu⟩ := response_selects
      (s := (s.say (.message (.esmInformationResponse response))).clearT3489) response hpdn
      hsession
    have hv := Except.ok.inj hv
    rw [hr] at hv
    rw [← hv] at hafter
    have hsettled := settled_of_createSessionOrReject hlike.log (hlike.sm.trans hsay) hafter
    rw [hu] at hsettled
    exact ⟨hsettled.sm, hsettled.log⟩
  | _ => cases hselects

section
variable {db : CArray ogsMaxImsiBcdLen → Option (SubscriptionData maxNumOfSess)}
  {mme hss : S6a.DiamHost} {sid : Bytes} {imsiBcd : CArray ogsMaxImsiBcdLen}
  {plmnId : Vector UInt8 3} {ula : UlaMessage maxNumOfSess}

end

end Esm
end NextEpc

import NextEpc.Mme.Keys

/-!
# `KeNB` and the chain of NH

An Initial Context Setup Request carries the `KeNB` that is stored. It was derived with the
COUNT of an Attach Request, a Service Request or a Security Mode Complete, not always of the
message that the request is for. From it the NH are chained.
-/

namespace NextEpc

/-- The uplink NAS COUNT of a message: the one that it was decoded with, or the stored one if
it was not decoded. -/
def Handling.count (h : Handling) : UlCount :=
  match h.event.origin.decoded with
  | some p => p.2.ulCount
  | none => h.ue.ulCount

/-- The keys that belong to `KeNB`. -/
def MmeUe.chainKeys (ue : MmeUe) : Octets32 × Octets32 × Octets32 × Nat :=
  (ue.kasme, ue.kenb, ue.nh, ue.nhcc)

namespace EmmMessage

/-- `KeNB` is derived when the message is handled. -/
def derivesKenb (message : EmmMessage) : Bool :=
  message.serviceRequest.isSome || match message.body with
    | .attachRequest _ | .securityModeComplete => true
    | _ => false

/-- A request for bearers: an Extended Service Request or a Tracking Area Update Request with
the active flag. -/
def requestsBearers (message : EmmMessage) : Bool :=
  match message.body with
  | .extendedServiceRequest _ => true
  | .trackingAreaUpdateRequest request => request.activeFlag
  | _ => false

def isIdentityResponse (message : EmmMessage) : Bool :=
  match message.body with
  | .identityResponse _ => true
  | _ => false

end EmmMessage

namespace MmeCall

def setup? : MmeCall → Option (Octets32 × Octets32)
  | initialContextSetupRequest kasme kenb => some (kasme, kenb)
  | _ => none

def attachAccept? : MmeCall → Option EmmState
  | attachAccept sm => some sm
  | _ => none

def isKdfNh : MmeCall → Bool
  | kdfNh => true
  | _ => false

/-- Calls that change neither the state nor a key and set up nothing. -/
def keepsKeys : MmeCall → Bool
  | aia _ _ | kdfEnb _ _ | kdfNh | initialContextSetupRequest _ _ | tran _ _ => false
  | _ => true

end MmeCall

/-- The request in `nas_eps` is granted when the message is handled, with the `KeNB` of an
earlier one. -/
def Handling.ReusesKenb (h : Handling) : Prop :=
  h.InRegisterState ∧ h.ue.securityContextAvailable = true ∧ h.ue.macFailed = false ∧
    h.message.serviceRequest = none ∧
    (h.message.requestsBearers = true ∧ h.event.s1apCode = .initialUeMessage ∨
      h.message.isIdentityResponse = true ∧
        (h.ue.nasEps.type = .attachRequest ∨ h.event.s1apCode = .initialUeMessage))

instance (h : Handling) : Decidable h.InRegisterState := inferInstanceAs (Decidable (_ ∨ _))

instance (h : Handling) : Decidable h.ReusesKenb := inferInstanceAs (Decidable (_ ∧ _))

namespace MmeLog

/-- The message that led to the current state. -/
def stateCause (log : MmeLog) : Option Handling :=
  (History.latest (fun item => item.call.target?.map fun _ => item.cause) log).join

/-- What has happened since `KeNB` was derived. -/
def sinceKdfEnb (log : MmeLog) : MmeLog := History.since (fun item => item.kdfEnb?.isSome) log

/-- The chaining steps since `KeNB` was derived. -/
def chainSteps (log : MmeLog) : Nat := (sinceKdfEnb log).countP fun item => item.call.isKdfNh

/-- The message that an Initial Context Setup Request is for: the one that is being handled,
or the one that led to the current state. -/
def trigger (item : MmeLogItem) (past : MmeLog) : Option Handling := item.cause.or (stateCause past)

/-- The state was entered with a Security Mode Complete. -/
def EnteredByComplete (log : MmeLog) : Prop :=
  ∃ h ∈ stateCause log, h.message.body = .securityModeComplete

instance (log : MmeLog) : Decidable (EnteredByComplete log) :=
  inferInstanceAs (Decidable (∃ _ ∈ _, _))

/-- What has to hold of the calls that derive and use `KeNB`: the KASME is the one that it is
derived from, Attach Accepts are sent in their state, and a request that is not sent while a
message is handled is for the one that led to the state. -/
structure CallInOrder (item : MmeLogItem) (past : MmeLog) : Prop where
  kasme : item.call.setup?.isSome = true ∨ item.call.isKdfNh = true →
    (latestKdfEnb past).isSome = true → ∀ i ∈ sinceKdfEnb past, i.call.aia? = none
  attachAccept : ∀ sm ∈ item.call.attachAccept?, sm = .initialContextSetup
  state : item.call.setup?.isSome = true → item.cause = none →
    (∀ i ∈ stay past, i.kdfEnb? = none) ∧ (emmState past = .registered → EnteredByComplete past)

instance (item : MmeLogItem) (past : MmeLog) : Decidable (CallInOrder item past) :=
  decidable_of_iff
    ((item.call.setup?.isSome = true ∨ item.call.isKdfNh = true →
      (latestKdfEnb past).isSome = true → ∀ i ∈ sinceKdfEnb past, i.call.aia? = none) ∧
      (∀ sm ∈ item.call.attachAccept?, sm = .initialContextSetup) ∧
      (item.call.setup?.isSome = true → item.cause = none →
        (∀ i ∈ stay past, i.kdfEnb? = none) ∧
          (emmState past = .registered → EnteredByComplete past)))
    ⟨fun h => ⟨h.1, h.2.1, h.2.2⟩, fun h => ⟨h.kasme, h.attachAccept, h.state⟩⟩

/-- Nothing was decoded between a message that `KeNB` is derived for and its handling, no
request is granted with the `KeNB` of an earlier one, and the calls are in order. -/
def SetUpInOrder (item : MmeLogItem) (past : MmeLog) : Prop :=
  (item.call = .emmMessage → ∀ h ∈ item.cause,
    (h.message.derivesKenb = true → h.count = h.ue.ulCount) ∧ ¬h.ReusesKenb) ∧
    CallInOrder item past

instance (item : MmeLogItem) (past : MmeLog) : Decidable (SetUpInOrder item past) :=
  inferInstanceAs (Decidable (_ ∧ _))

section
variable [OgsCrypt]

/-- An Initial Context Setup Request carries the `KeNB` of the KASME and the COUNT of the
message that it is for. -/
def SetUpKey (item : MmeLogItem) (past : MmeLog) : Prop :=
  ∀ keys ∈ item.call.setup?, ∃ h ∈ trigger item past,
    (h.message.derivesKenb = true ∨ h.message.requestsBearers = true) ∧
      keys.2 = mmeKdfEnb keys.1 h.count.i32

instance (item : MmeLogItem) (past : MmeLog) : Decidable (SetUpKey item past) :=
  inferInstanceAs (Decidable (∀ _ ∈ _, _))

/-- `KeNB` and NH are those of the last derivation and the chaining steps since. -/
structure Chained (log : MmeLog) (ue : MmeUe) : Prop where
  kenb : ∀ d ∈ latestKdfEnb log, ue.kenb = mmeKdfEnb d.2.1 d.2.2
  nhcc : ∀ _d ∈ latestKdfEnb log, ue.nhcc = (1 + chainSteps log) % 8
  nh : ∀ d ∈ latestKdfEnb log, ue.nh = (mmeKdfNh d.2.1)^[1 + chainSteps log] ue.kenb

end

variable {log : MmeLog} {cause : Option Handling} {call : MmeCall}

section

theorem sinceKdfEnb_cons (h : MmeLogItem.kdfEnb? ⟨cause, call⟩ = none) :
    sinceKdfEnb (⟨cause, call⟩ :: log) = ⟨cause, call⟩ :: sinceKdfEnb log := by
  apply History.since_cons_of_not
  rw [h]
  rfl

theorem latestKdfEnb_cons (h : MmeLogItem.kdfEnb? ⟨cause, call⟩ = none) :
    latestKdfEnb (⟨cause, call⟩ :: log) = latestKdfEnb log :=
  History.latest_cons_of_none h

theorem stateCause_cons (h : call.target? = none) :
    stateCause (⟨cause, call⟩ :: log) = stateCause log := by
  unfold stateCause
  rw [History.latest_cons_of_none]
  dsimp only
  rw [h]
  rfl

theorem chainSteps_cons (hkdf : MmeLogItem.kdfEnb? ⟨cause, call⟩ = none)
    (hnh : call.isKdfNh = false) : chainSteps (⟨cause, call⟩ :: log) = chainSteps log := by
  unfold chainSteps
  rw [sinceKdfEnb_cons hkdf, List.countP_cons_of_neg (by simp [hnh])]

theorem chainSteps_kdfNh : chainSteps (⟨cause, .kdfNh⟩ :: log) = chainSteps log + 1 := by
  unfold chainSteps
  rw [sinceKdfEnb_cons rfl, List.countP_cons_of_pos rfl]

end

section
variable [OgsCrypt] {ue ue' : MmeUe}

/-- What the proofs about `KeNB` carry along: the last derivation and what it was for, the
chain from it, the request that is kept for T3450 and the message that led to the state. -/
structure KeyChain (log : MmeLog) (ue : MmeUe) : Prop where
  derived : ∀ d ∈ latestKdfEnb log, ∃ h, d = (some h, h.ue.kasme, h.count.i32) ∧
    h.message.derivesKenb = true
  chained : Chained log ue
  kasme : ∀ d ∈ latestKdfEnb log, (∀ i ∈ sinceKdfEnb log, i.call.aia? = none) →
    ue.kasme = d.2.1
  t3450 : ∀ s1apbuf ∈ ue.t3450.pkbuf, emmState log = .initialContextSetup ∧ s1apbuf = ue.kenb
  entered : emmState log = .initialContextSetup ∨
      emmState log = .registered ∧ EnteredByComplete log →
    (∀ i ∈ stay log, i.kdfEnb? = none) →
    ∃ h kasme ulCount, stateCause log = some h ∧ latestKdfEnb log = some (some h, kasme, ulCount)
  setUpKey : History.Always SetUpKey log

theorem Chained.congr (hc : Chained log ue) (hkeys : ue'.chainKeys = ue.chainKeys) :
    Chained log ue' := by
  simp only [MmeUe.chainKeys, Prod.mk.injEq] at hkeys
  obtain ⟨-, hkenb, hnh, hnhcc⟩ := hkeys
  exact ⟨fun d hd => hkenb.trans (hc.kenb d hd), fun d hd => hnhcc.trans (hc.nhcc d hd),
    fun d hd => by rw [hnh, hc.nh d hd, hkenb]⟩

/-- A record that has got longer by calls that say nothing about `KeNB`. -/
theorem Chained.cons (hc : Chained log ue) (hkdf : MmeLogItem.kdfEnb? ⟨cause, call⟩ = none)
    (hnh : call.isKdfNh = false) : Chained (⟨cause, call⟩ :: log) ue where
  kenb d hd := hc.kenb d (latestKdfEnb_cons hkdf ▸ hd)
  nhcc d hd := by
    rw [chainSteps_cons hkdf hnh]
    exact hc.nhcc d (latestKdfEnb_cons hkdf ▸ hd)
  nh d hd := by
    rw [chainSteps_cons hkdf hnh]
    exact hc.nh d (latestKdfEnb_cons hkdf ▸ hd)

/-- The keys stay, and a request that is newly kept for T3450 carries `KeNB`. -/
theorem KeyChain.keep (hk : KeyChain log ue) (hkeys : ue'.chainKeys = ue.chainKeys)
    (ht3450 : ∀ s1apbuf ∈ ue'.t3450.pkbuf, s1apbuf ∈ ue.t3450.pkbuf ∨
      emmState log = .initialContextSetup ∧ s1apbuf = ue.kenb) : KeyChain log ue' where
  derived := hk.derived
  chained := hk.chained.congr hkeys
  kasme d hd haia := (congrArg Prod.fst hkeys).trans (hk.kasme d hd haia)
  t3450 s1apbuf hs1apbuf := by
    have hkenb : ue'.kenb = ue.kenb := congrArg (fun keys => keys.2.1) hkeys
    rw [hkenb]
    rcases ht3450 s1apbuf hs1apbuf with hkept | hnew
    · exact hk.t3450 s1apbuf hkept
    · exact hnew
  entered := hk.entered
  setUpKey := hk.setUpKey

theorem KeyChain.keep_security (hk : KeyChain log ue) (hue : ue'.security = ue.security)
    (ht3450 : ue'.t3450.pkbuf = ue.t3450.pkbuf ∨ ue'.t3450.pkbuf = none) : KeyChain log ue' := by
  have hkeys : ue'.chainKeys = ue.chainKeys := congrArg (fun ue => ue.chainKeys) hue
  apply hk.keep hkeys
  intro s1apbuf hs1apbuf
  rcases ht3450 with hsame | hnone
  · exact Or.inl (hsame ▸ hs1apbuf)
  · rw [hnone] at hs1apbuf
    cases hs1apbuf

/-- A call that changes neither the state nor `KeNB`. -/
theorem KeyChain.cons (hk : KeyChain log ue) (htarget : call.target? = none)
    (hkdf : MmeLogItem.kdfEnb? ⟨cause, call⟩ = none) (hnh : call.isKdfNh = false)
    (hsetup : SetUpKey ⟨cause, call⟩ log) :
    KeyChain (⟨cause, call⟩ :: log) ue where
  derived d hd := hk.derived d (latestKdfEnb_cons hkdf ▸ hd)
  chained := hk.chained.cons hkdf hnh
  kasme d hd hsince := by
    rw [latestKdfEnb_cons hkdf] at hd
    apply hk.kasme d hd
    intro i hi
    apply hsince
    rw [sinceKdfEnb_cons hkdf]
    exact List.mem_cons_of_mem _ hi
  t3450 s1apbuf hs1apbuf := by
    rw [emmState_cons htarget]
    exact hk.t3450 s1apbuf hs1apbuf
  entered hstate hstay := by
    unfold EnteredByComplete at hstate
    rw [emmState_cons htarget, stateCause_cons htarget] at hstate
    rw [stateCause_cons htarget, latestKdfEnb_cons hkdf]
    apply hk.entered hstate
    intro i hi
    apply hstay
    rw [stay_cons htarget]
    exact List.mem_cons_of_mem _ hi
  setUpKey := ⟨hsetup, hk.setUpKey⟩

theorem KeyChain.say (hk : KeyChain log ue) (hcall : call.keepsKeys = true) :
    KeyChain (⟨cause, call⟩ :: log) ue := by
  cases call with
  | aia | kdfEnb | kdfNh | initialContextSetupRequest | tran => cases hcall
  | _ => exact hk.cons rfl rfl rfl fun _ h => nomatch h

/-- A request with the stored `KeNB`, which was derived for the message that it is for. -/
theorem KeyChain.setUp (hk : KeyChain log ue) {h : Handling} {kasme : Octets32}
    {ulCount : UInt32} (htrigger : cause.or (stateCause log) = some h)
    (hlatest : latestKdfEnb log = some (some h, kasme, ulCount))
    (hcond : CallInOrder ⟨cause, .initialContextSetupRequest ue.kasme ue.kenb⟩ log) :
    KeyChain (⟨cause, .initialContextSetupRequest ue.kasme ue.kenb⟩ :: log) ue := by
  apply hk.cons rfl rfl rfl
  intro keys hkeys
  cases hkeys
  obtain ⟨h', heq, hderives⟩ := hk.derived _ hlatest
  injection heq with hcause hrest
  injection hrest with _ hulCount
  cases hcause
  refine ⟨h, htrigger, Or.inl hderives, ?_⟩
  have hkasme := hk.kasme _ hlatest (hcond.kasme (Or.inl rfl) (by rw [hlatest]; rfl))
  dsimp only
  rw [hkasme, hk.chained.kenb _ hlatest, hulCount]

/-- `KeNB` is derived for a message. -/
theorem KeyChain.kdfEnb (hk : KeyChain log ue) {h : Handling}
    (hderives : h.message.derivesKenb = true) (hcount : h.count = h.ue.ulCount)
    (hkasme : ue.kasme = h.ue.kasme) (hulCount : ue.ulCount = h.ue.ulCount)
    (ht3450 : ue.t3450.pkbuf = none ∨ emmState log = .securityMode)
    (hue' : ue' = { ue with
      kenb := mmeKdfEnb ue.kasme ue.ulCount.i32
      nh := mmeKdfNh ue.kasme (mmeKdfEnb ue.kasme ue.ulCount.i32)
      nhcc := 1 }) :
    KeyChain (⟨some h, .kdfEnb ue.kasme ue.ulCount.i32⟩ :: log) ue' where
  derived d hd := by
    cases hd
    exact ⟨h, by rw [hkasme, hulCount, hcount], hderives⟩
  chained := by
    have hsteps : chainSteps (⟨some h, .kdfEnb ue.kasme ue.ulCount.i32⟩ :: log) = 0 := by
      unfold chainSteps sinceKdfEnb
      rw [History.since_cons_of rfl]
      rfl
    subst hue'
    refine ⟨fun d hd => ?_, fun d hd => ?_, fun d hd => ?_⟩
    · cases hd
      rfl
    · rw [hsteps]
    · cases hd
      rw [hsteps]
      rfl
  kasme d hd _ := by
    cases hd
    rw [hue']
  t3450 s1apbuf hs1apbuf := by
    rw [hue'] at hs1apbuf
    rcases ht3450 with hnone | hstate
    · rw [hnone] at hs1apbuf
      cases hs1apbuf
    · cases hstate.symm.trans (hk.t3450 s1apbuf hs1apbuf).1
  entered _ hstay := by
    have hitem := hstay ⟨some h, .kdfEnb ue.kasme ue.ulCount.i32⟩ (by
      rw [stay_cons rfl]
      exact List.mem_cons_self)
    cases hitem
  setUpKey := ⟨(fun _ h => nomatch h), hk.setUpKey⟩

/-- One chaining step. -/
theorem KeyChain.kdfNh (hk : KeyChain log ue)
    (hcond : CallInOrder ⟨cause, .kdfNh⟩ log)
    (hue' : ue' = { ue with nhcc := (ue.nhcc + 1) % 8, nh := mmeKdfNh ue.kasme ue.nh }) :
    KeyChain (⟨cause, .kdfNh⟩ :: log) ue' where
  derived d hd := hk.derived d hd
  chained := by
    subst hue'
    refine ⟨fun d hd => hk.chained.kenb d hd, fun d hd => ?_, fun d hd => ?_⟩
    · have hnhcc := hk.chained.nhcc d hd
      rw [chainSteps_kdfNh]
      dsimp only
      omega
    · have hnh := hk.chained.nh d hd
      have hkasme := hk.kasme d hd (hcond.kasme (Or.inr rfl) (Option.isSome_of_mem hd))
      rw [chainSteps_kdfNh, ← add_assoc, Function.iterate_succ_apply']
      dsimp only
      rw [← hnh, hkasme]
  kasme d hd hsince := by
    rw [hue']
    apply hk.kasme d hd
    intro i hi
    apply hsince
    rw [sinceKdfEnb_cons rfl]
    exact List.mem_cons_of_mem _ hi
  t3450 s1apbuf hs1apbuf := by
    rw [hue'] at hs1apbuf ⊢
    exact hk.t3450 s1apbuf hs1apbuf
  entered hstate hstay := hk.entered hstate fun i hi => by
    apply hstay
    rw [stay_cons rfl]
    exact List.mem_cons_of_mem _ hi
  setUpKey := ⟨(fun _ h => nomatch h), hk.setUpKey⟩

/-- An answer of the HSS replaces KASME. -/
theorem KeyChain.aia (hk : KeyChain log ue) {id : Nat} {vector : EUtranVector}
    (hkenb : ue'.kenb = ue.kenb) (hnh : ue'.nh = ue.nh) (hnhcc : ue'.nhcc = ue.nhcc)
    (ht3450 : ue'.t3450 = ue.t3450) : KeyChain (⟨cause, .aia id vector⟩ :: log) ue' where
  derived d hd := hk.derived d hd
  chained := by
    have hcons : Chained (⟨cause, .aia id vector⟩ :: log) ue := hk.chained.cons rfl rfl
    exact ⟨fun d hd => hkenb.trans (hcons.kenb d hd), fun d hd => hnhcc.trans (hcons.nhcc d hd),
      fun d hd => by rw [hnh, hcons.nh d hd, hkenb]⟩
  kasme d hd hsince := by
    have hitem := hsince ⟨cause, .aia id vector⟩ (by
      rw [sinceKdfEnb_cons rfl]
      exact List.mem_cons_self)
    cases hitem
  t3450 s1apbuf hs1apbuf := by
    rw [ht3450] at hs1apbuf
    rw [hkenb]
    exact hk.t3450 s1apbuf hs1apbuf
  entered hstate hstay := hk.entered hstate fun i hi => by
    apply hstay
    rw [stay_cons rfl]
    exact List.mem_cons_of_mem _ hi
  setUpKey := ⟨(fun _ h => nomatch h), hk.setUpKey⟩

/-- A state is entered. Where it may set up a context, `KeNB` was derived last for the message
that led to it. -/
theorem KeyChain.tran (hk : KeyChain log ue) {source target : EmmState}
    (ht3450 : ue.t3450.pkbuf = none)
    (hentered : target = .initialContextSetup ∨
        target = .registered ∧ (∃ h ∈ cause, h.message.body = .securityModeComplete) →
      ∃ h kasme ulCount, cause = some h ∧ latestKdfEnb log = some (some h, kasme, ulCount)) :
    KeyChain (⟨cause, .tran source target⟩ :: log) ue where
  derived d hd := hk.derived d hd
  chained := hk.chained.cons rfl rfl
  kasme d hd hsince := by
    apply hk.kasme d hd
    intro i hi
    apply hsince
    rw [sinceKdfEnb_cons rfl]
    exact List.mem_cons_of_mem _ hi
  t3450 s1apbuf hs1apbuf := by
    rw [ht3450] at hs1apbuf
    cases hs1apbuf
  entered hstate _ := hentered hstate
  setUpKey := ⟨(fun _ h => nomatch h), hk.setUpKey⟩

/-- No request is kept outside `emm_state_initial_context_setup`. -/
theorem KeyChain.pkbuf_of_ne (hk : KeyChain log ue) (hne : emmState log ≠ .initialContextSetup) :
    ue.t3450.pkbuf = none := by
  cases hpkbuf : ue.t3450.pkbuf with
  | none => rfl
  | some s1apbuf => exact absurd (hk.t3450 s1apbuf hpkbuf).1 hne

end

end MmeLog

section
variable [OgsCrypt] {cfg : MmeConfig} {m m' : Mme} {target : EmmState} {h : Handling}

omit [OgsCrypt] in
/-- The record was in order when a message was handed over. -/
theorem MmeLog.SetUpInOrder.of_log {log calls past : MmeLog}
    (hcond : History.Always MmeLog.SetUpInOrder log)
    (hlog : log = calls ++ ⟨some h, .emmMessage⟩ :: past) :
    (h.message.derivesKenb = true → h.count = h.ue.ulCount) ∧ ¬h.ReusesKenb := by
  rw [hlog] at hcond
  exact hcond.of_append.1.1 rfl h rfl

theorem MmeOp.keyChain (hop : MmeOp m m') (hm : m.log.KeyChain m.ue)
    (hcond : History.Always MmeLog.SetUpInOrder m'.log) : m'.log.KeyChain m'.ue := by
  cases hop with
  | keep hue => exact hm.keep_security hue.security hue.t3450
  | protect => exact hm.keep rfl fun _ h => Or.inl h
  | air =>
    have hcleared : m.log.KeyChain m.ue.clearSecurityContext := hm.keep rfl fun _ h => Or.inl h
    exact hcleared.say rfl
  | authenticationRequest | ueContextModificationRequest | emmToEsm | tauAccept =>
    exact hm.say rfl
  | @kdfEnb h hderives =>
    obtain ⟨past, hlog⟩ := hderives.log
    have hkind : h.message.derivesKenb = true := by
      unfold EmmMessage.derivesKenb
      rcases hderives.message with hservice | ⟨request, hbody⟩ | hbody
      · rw [hservice]
        rfl
      · rw [hbody, Bool.or_true]
      · rw [hbody, Bool.or_true]
    have hbegin : m.log = [] ++ ⟨some h, .emmMessage⟩ :: past := hlog
    have hcount := (MmeLog.SetUpInOrder.of_log hcond.2 hbegin).1 hkind
    have hchain := hm.kdfEnb hkind hcount hderives.kasme hderives.ulCount hderives.t3450 rfl
    rw [← hderives.handling] at hchain
    exact hchain
  | @attachAccept s1apbuf ue hhandling hstate hpkbuf hue hkept =>
    have hics : m.ue.sm = .initialContextSetup := hcond.2.1.2.attachAccept _ rfl
    have hkenb : s1apbuf = m.ue.kenb := by
      rcases hpkbuf with hsome | hsame
      · exact (hm.t3450 s1apbuf hsome).2
      · exact hsame
    have hkeys : ue.chainKeys = m.ue.chainKeys := by
      rcases hue with hsame | havailable
      · exact congrArg (fun ue => ue.chainKeys) hsame
      · exact congrArg (fun ue => ue.chainKeys) havailable
    have hstate' : m.log.emmState = .initialContextSetup := hstate.trans hics
    have hkept' : m.log.KeyChain ue := by
      apply hm.keep hkeys
      intro k hk
      rw [hkept] at hk
      cases hk
      exact Or.inr ⟨hstate', hkenb⟩
    have hsaid : MmeLog.KeyChain (⟨m.handling, .attachAccept m.ue.sm⟩ :: m.log) ue :=
      hkept'.say rfl
    obtain ⟨h, kasme, ulCount, hcause, hlatest⟩ :=
      hsaid.entered (Or.inl hstate') (hcond.1.2.state rfl hhandling).1
    have hsame : s1apbuf = ue.kenb :=
      hkenb.trans (congrArg (fun keys => keys.2.1) hkeys).symm
    subst hsame
    have htrigger : m.handling.or
        (MmeLog.stateCause (⟨m.handling, .attachAccept m.ue.sm⟩ :: m.log)) = some h := by
      rw [hcause, hhandling]
      rfl
    exact hsaid.setUp htrigger hlatest hcond.1.2
  | initialContextSetupRequest hwhy =>
    cases hwhy with
    | @serviceRequest h past hcontinues _ hlog =>
      apply hm.setUp _ _ hcond.1.2
      · exact h
      · exact h.ue.kasme
      · exact h.ue.ulCount.i32
      · rw [hcontinues.handling]
        rfl
      · rw [hlog]
        rfl
    | @request h hcontinues hcode hmessage hbody =>
      obtain ⟨calls, past, hlog, -⟩ := hcontinues.log
      apply absurd _ (MmeLog.SetUpInOrder.of_log hcond.2 hlog).2
      refine ⟨hcontinues.sm, hcontinues.available, hcontinues.notFailed, hmessage, ?_⟩
      rcases hbody with ⟨request, hbody, hflag⟩ | ⟨serviceType, hbody⟩ | ⟨imsiLen, hbody, -⟩
      · refine Or.inl ⟨?_, hcode⟩
        rw [EmmMessage.requestsBearers, hbody]
        exact hflag
      · refine Or.inl ⟨?_, hcode⟩
        rw [EmmMessage.requestsBearers, hbody]
      · refine Or.inr ⟨?_, Or.inr hcode⟩
        rw [EmmMessage.isIdentityResponse, hbody]
    | updateLocation hhandling hstate =>
      obtain ⟨hstay, hcomplete⟩ := hcond.1.2.state rfl hhandling
      obtain ⟨h, kasme, ulCount, hcause, hlatest⟩ :=
        hm.entered (Or.inr ⟨hstate, hcomplete hstate⟩) hstay
      apply hm.setUp _ hlatest hcond.1.2
      rw [hhandling, Option.none_or]
      exact hcause

/-- Where a context may be set up, `KeNB` was derived last for the message that led there. -/
theorem Mme.Enters.keyChain (henters : m.Enters target) (hm : m.log.KeyChain m.ue)
    (hcond : History.Always MmeLog.SetUpInOrder m.log) :
    (target = .authentication ∨ target = .initialContextSetup ∨ target = .registered →
      m.ue.t3450.pkbuf = none) ∧
    (target = .initialContextSetup ∨
        target = .registered ∧ (∃ h ∈ m.handling, h.message.body = .securityModeComplete) →
      ∃ h kasme ulCount, m.handling = some h ∧
        m.log.latestKdfEnb = some (some h, kasme, ulCount)) := by
  cases henters with
  | deRegistered | exception | securityMode =>
    refine ⟨fun h => ?_, fun h => ?_⟩
    · rcases h with h | h | h <;> cases h
    · rcases h with h | ⟨h, -⟩ <;> cases h
  | authentication _ ht3450 =>
    refine ⟨fun _ => ?_, fun h => ?_⟩
    · by_cases hstate : m.log.emmState = .initialContextSetup
      · exact ht3450 hstate
      · exact hm.pkbuf_of_ne hstate
    · rcases h with h | ⟨h, -⟩ <;> cases h
  | @complete h _ _ _ hhandling hstate hsource _ _ _ _ hlog =>
    refine ⟨fun _ => hm.pkbuf_of_ne ?_, fun _ => ⟨h, h.ue.kasme, h.ue.ulCount.i32, hhandling, ?_⟩⟩
    · rw [hstate, hsource]
      decide
    · rw [hlog]
      rfl
  | @attach h hcontinues hstate hderived =>
    refine ⟨fun _ => hm.pkbuf_of_ne ?_, fun _ => ?_⟩
    · rw [hstate]
      rcases hcontinues.sm with hsm | hsm
      · rw [hsm]
        decide
      · rw [hsm]
        decide
    · rcases hderived with ⟨kasme, ulCount, hlatest⟩ | ⟨hmessage, ⟨imsiLen, hbody⟩, htype⟩
      · exact ⟨h, kasme, ulCount, hcontinues.handling, hlatest⟩
      · obtain ⟨calls, past, hlog, -⟩ := hcontinues.log
        apply absurd _ (MmeLog.SetUpInOrder.of_log hcond hlog).2
        refine ⟨hcontinues.sm, hcontinues.available, hcontinues.notFailed, hmessage,
          Or.inr ⟨?_, Or.inl htype⟩⟩
        rw [EmmMessage.isIdentityResponse, hbody]
  | @attachComplete h hcompletes _ ht3450 =>
    refine ⟨fun _ => ht3450, fun htarget => ?_⟩
    rcases htarget with htarget | ⟨-, h', hhandling, hbody⟩
    · cases htarget
    · rw [hcompletes.handling] at hhandling
      cases hhandling
      obtain ⟨container, hcomplete⟩ := hcompletes.body
      cases hbody.symm.trans hcomplete

theorem MmeMove.keyChain (hmove : MmeMove cfg m m') (hm : m.log.KeyChain m.ue)
    (hcond : History.Always MmeLog.SetUpInOrder m'.log) : m'.log.KeyChain m'.ue := by
  cases hmove with
  | op hop => exact hop.keyChain hm hcond
  | enbUes => exact hm.keep_security rfl (Or.inl rfl)
  | queue | pendingAirs | handled => exact hm
  | decodeAgain => exact hm.keep rfl fun _ h => Or.inl h
  | decode _ hdecodes =>
    obtain ⟨ulCount, failed, rfl⟩ := hdecodes.shape
    have hdecoded : m.log.KeyChain
        { m.ue with ulCount := ulCount, macFailed := m.ue.macFailed || failed } :=
      hm.keep rfl fun _ h => Or.inl h
    exact hdecoded.say rfl
  | message | esmMessage => exact hm.say rfl
  | @aia id vector =>
    have hstored : MmeLog.KeyChain (⟨m.handling, .aia id vector⟩ :: m.log)
        (m.ue.storeVector vector) := by
      apply hm.aia
      all_goals dsimp only [MmeUe.storeVector]
    exact hstored.keep rfl fun _ h => Or.inl h
  | kdfNh => exact hm.kdfNh hcond.1.2 rfl
  | enter henters htarget =>
    obtain ⟨ht3450, hentered⟩ := henters.keyChain hm hcond.2
    rcases htarget with rfl | rfl | rfl
    · exact hm.tran (ht3450 (Or.inl rfl)) hentered
    · exact hm.tran (ht3450 (Or.inr (Or.inl rfl))) hentered
    · exact hm.tran (ht3450 (Or.inr (Or.inr rfl))) hentered
  | leave _ htarget =>
    have hcleared : m.log.KeyChain m.ue.clearAllTimers :=
      hm.keep rfl fun _ h => nomatch h
    apply hcleared.tran rfl
    rcases htarget with rfl | rfl <;> intro h <;> rcases h with h | ⟨h, -⟩ <;> cases h
  | enterSecurityMode dlCount pdu _ hstate =>
    have ht3450 : m.ue.t3450.pkbuf = none := hm.pkbuf_of_ne (by rw [hstate]; decide)
    have hentered : MmeLog.KeyChain (⟨m.handling, .tran .authentication .securityMode⟩ :: m.log)
        m.ue := by
      apply hm.tran ht3450
      intro h
      rcases h with h | ⟨h, -⟩ <;> cases h
    have hselected : MmeLog.KeyChain
        (⟨m.handling, .tran .authentication .securityMode⟩ :: m.log)
        { m.ue.selectAlgorithms cfg with
          dlCount := dlCount
          ulCount := .zero
          securityContextAvailable := true
          t3460 := { pkbuf := some (.securityModeCommand pdu) } } :=
      hentered.keep rfl fun _ h => Or.inl h
    exact hselected.say rfl
  | attachAgain _ _ hstate =>
    have ht3450 : m.ue.t3450.pkbuf = none := hm.pkbuf_of_ne (by rw [hstate]; decide)
    have hcleared : m.log.KeyChain
        { m.ue.clearSecurityContext with sm := .authentication } :=
      hm.keep rfl fun _ h => Or.inl h
    have hair : MmeLog.KeyChain (⟨m.handling, .air m.airs⟩ :: m.log)
        { m.ue.clearSecurityContext with sm := .authentication } := hcleared.say rfl
    apply hair.tran ht3450
    intro h
    rcases h with h | ⟨h, -⟩ <;> cases h

/-- Each Initial Context Setup Request carries the `KeNB` of the message that it is for and the
NH are chained from it, if messages come in order. -/
theorem setUpKey_of_setUpInOrder [NasDecoder] (hinitial : m.Initial)
    (hreaches : Lts.Reaches (Mme.Step cfg) m m')
    (hcond : History.Always MmeLog.SetUpInOrder m'.log) :
    History.Always MmeLog.SetUpKey m'.log ∧ m'.log.Chained m'.ue := by
  have hlog := hinitial.log
  have hchain : m.log.KeyChain m.ue := by
    rw [hlog]
    refine ⟨fun _ h => (nomatch h), ⟨fun _ h => (nomatch h), fun _ h => (nomatch h),
      fun _ h => (nomatch h)⟩, fun _ h => (nomatch h), fun s1apbuf h => ?_, fun h => ?_, trivial⟩
    · rw [hinitial.t3450] at h
      cases h
    · rcases h with h | ⟨h, -⟩ <;> cases h
  have hafter : m'.log.KeyChain m'.ue := hinitial.invariant (I := fun m => m.log.KeyChain m.ue)
    (fun _ _ hm hmove hlog => hmove.keyChain hm hlog) hchain hreaches hcond
  exact ⟨hafter.setUpKey, hafter.chained⟩

end

/-- The sessions of the UE are set up and the attach is accepted. -/
def sampleAccept : List MmeLabel :=
  sampleSecurityMode ++ [.bearers [.sessions 1 false, .attachAccept []]]

/-- The attach is accepted and the UE is handed over. -/
theorem setUpKey_sampleAccept :
    History.Always (@MmeLog.SetUpKey OgsCrypt.reference)
        (@sampleRun OgsCrypt.reference NasDecoder.reference
          (sampleAccept ++ [.handoverRequired])).log ∧
      @MmeLog.Chained OgsCrypt.reference
        (@sampleRun OgsCrypt.reference NasDecoder.reference
          (sampleAccept ++ [.handoverRequired])).log
        (@sampleRun OgsCrypt.reference NasDecoder.reference
          (sampleAccept ++ [.handoverRequired])).ue :=
  @setUpKey_of_setUpInOrder OgsCrypt.reference sampleConfig sampleMme _ NasDecoder.reference
    sampleMme_initial
    (@sampleRun_reaches OgsCrypt.reference NasDecoder.reference _ (by decide +kernel))
    (by decide +kernel)

/-- After the attach the UE sends a Tracking Area Update Request with the active flag, on a new
connection. -/
def sampleUpdate : List MmeLabel :=
  sampleAccept ++ sampleUplink [0x27, 9, 9, 9, 8, 1, 0x07, 0x43, 0, 1, 0x52] ++
    [.message {} none,
      .uplink {} 1 .initialUeMessage [0x17, 9, 9, 9, 11, 2, 0x07, 0x48, 0x08],
      .message { found := true } none]

/-- The request for the update carries the `KeNB` of the attach. -/
theorem setUpKey_update :
    let _ := OgsCrypt.reference
    let _ := NasDecoder.reference
    ¬∀ m m' : Mme, m.Initial → Lts.Reaches (Mme.Step sampleConfig) m m' →
      History.Always MmeLog.SetUpKey m'.log ∧ m'.log.Chained m'.ue := by
  have hwrong : ¬History.Always (@MmeLog.SetUpKey OgsCrypt.reference)
      (@sampleRun OgsCrypt.reference NasDecoder.reference sampleUpdate).log := by
    decide +kernel
  have hreaches := @sampleRun_reaches OgsCrypt.reference NasDecoder.reference sampleUpdate
    (by decide +kernel)
  intro crypt decoder hclaim
  exact hwrong (hclaim sampleMme _ sampleMme_initial hreaches).1

end NextEpc

import NextEpc.Lib.History
import NextEpc.Mme.NasDownlink
import NextEpc.Mme.NasReplay
import NextEpc.Mme.MmeSm

/-!
# The operations that a step is made of

The handlers of the state machine change the security of a context through few operations.
`MmeOp` lists them with what is known where they are performed, and each function of the
model is a sequence of them. A property of runs is then proved operation by operation.
-/

namespace NextEpc

/-! ## The record of a run -/

namespace MmeCall

def target? : MmeCall → Option EmmState
  | tran _ target => some target
  | _ => none

def aia? : MmeCall → Option EUtranVector
  | aia _ vector => some vector
  | _ => none

def isAir : MmeCall → Bool
  | air _ => true
  | _ => false

end MmeCall

/-- A derivation of `KeNB`: the message that it is for, KASME and the COUNT. -/
def MmeLogItem.kdfEnb? (item : MmeLogItem) : Option (Option Handling × Octets32 × UInt32) :=
  match item.call with
  | .kdfEnb kasme ulCount => some (item.cause, kasme, ulCount)
  | _ => none

namespace MmeLog

/-- The state after the last transition. -/
def emmState (log : MmeLog) : EmmState :=
  (History.latest (fun item => item.call.target?) log).getD .deRegistered

/-- What has happened in the current state. -/
def stay (log : MmeLog) : MmeLog := History.since (fun item => item.call.target?.isSome) log

/-- What has happened since the last Authentication-Information-Request. -/
def sinceAir (log : MmeLog) : MmeLog := History.since (fun item => item.call.isAir) log

/-- The vector of the last Authentication-Information-Answer. -/
def latestAia (log : MmeLog) : Option EUtranVector :=
  History.latest (fun item => item.call.aia?) log

/-- The last derivation of `KeNB`. -/
def latestKdfEnb (log : MmeLog) : Option (Option Handling × Octets32 × UInt32) :=
  History.latest (fun item => item.kdfEnb?) log

variable {log : MmeLog} {cause : Option Handling} {call : MmeCall}

theorem emmState_cons (h : call.target? = none) :
    emmState (⟨cause, call⟩ :: log) = emmState log := by
  unfold emmState
  rw [History.latest_cons_of_none]
  exact h

@[simp] theorem emmState_tran {source target : EmmState} :
    emmState (⟨cause, .tran source target⟩ :: log) = target := rfl

theorem stay_cons (h : call.target? = none) :
    stay (⟨cause, call⟩ :: log) = ⟨cause, call⟩ :: stay log := by
  unfold stay
  rw [History.since_cons_of_not]
  simp [h]

@[simp] theorem stay_tran {source target : EmmState} :
    stay (⟨cause, .tran source target⟩ :: log) = [] :=
  History.since_cons_of rfl

theorem sinceAir_cons (h : call.isAir = false) :
    sinceAir (⟨cause, call⟩ :: log) = ⟨cause, call⟩ :: sinceAir log :=
  History.since_cons_of_not h

theorem latestAia_cons (h : call.aia? = none) :
    latestAia (⟨cause, call⟩ :: log) = latestAia log :=
  History.latest_cons_of_none h

@[simp] theorem latestAia_aia {id : Nat} {vector : EUtranVector} :
    latestAia (⟨cause, .aia id vector⟩ :: log) = some vector :=
  History.latest_cons_of rfl

end MmeLog

/-! ## Operations -/

/-- A context without what only the procedures read. -/
def MmeUe.security (ue : MmeUe) : MmeUe :=
  { ue with
    sm := .deRegistered, nasEps := {}, imsiLen := 0, eea := 0, eia := 0, dlCount := 0,
    sgwS11Teid := 0, sessionContextWillDeleted := false, enbUe := none,
    pdnConnectivityRequest := [], t3450 := .clear, t3460 := .clear, t3470 := .clear }

/-- Keys, counts and checks stay as they are; a message that is kept for a timer may go. -/
structure MmeUe.Keeps (ue ue' : MmeUe) : Prop where
  security : ue'.security = ue.security
  t3450 : ue'.t3450.pkbuf = ue.t3450.pkbuf ∨ ue'.t3450.pkbuf = none
  t3460 : ue'.t3460.pkbuf = ue.t3460.pkbuf ∨ ue'.t3460.pkbuf = none

/-- A Service Request, or a message after which the request in `nas_eps` is granted. -/
def EmmMessage.IsRequest (message : EmmMessage) : Prop :=
  message.serviceRequest.isSome = true ∨ (∃ request, message.body = .attachRequest request) ∨
    (∃ request, message.body = .trackingAreaUpdateRequest request) ∨
    (∃ serviceType, message.body = .extendedServiceRequest serviceType) ∨
    ∃ imsiLen, message.body = .identityResponse imsiLen

/-- The octet of a Tracking Area Update Request that holds the active flag. -/
def TrackingAreaUpdateRequest.activeFlag (request : TrackingAreaUpdateRequest) : Bool :=
  NasEps.activeFlag ⟨.tauRequest, 0, request.epsUpdateType⟩

/-- The message is handled in one of the two register states. -/
def Handling.InRegisterState (h : Handling) : Prop :=
  h.ue.sm = .deRegistered ∨ h.ue.sm = .registered

namespace Mme

/-- A message is being handled: `calls` have been made since it was handed over, and the
context is still as it was then, up to what the procedures read. -/
structure During (m : Mme) (h : Handling) (calls past : MmeLog) : Prop where
  handling : m.handling = some h
  emmState : m.log.emmState = h.ue.sm
  available : m.ue.securityContextAvailable = h.ue.securityContextAvailable
  macFailed : m.ue.macFailed = h.ue.macFailed
  kasme : m.ue.kasme = h.ue.kasme
  ulCount : m.ue.ulCount = h.ue.ulCount
  log : m.log = calls ++ ⟨some h, .emmMessage⟩ :: past
  calls : ∀ item ∈ calls, item.call.isAir = false

/-- A request that is being handled is granted: the security context is valid, and so it was
when the message was handed over, up to the key set identifier. -/
structure Continues (m : Mme) (h : Handling) : Prop where
  handling : m.handling = some h
  request : h.message.IsRequest
  sm : h.InRegisterState
  macFailed : m.ue.macFailed = false
  available : h.ue.securityContextAvailable = true
  notFailed : h.ue.macFailed = false
  log : ∃ calls past, m.log = calls ++ ⟨some h, .emmMessage⟩ :: past ∧
    ∀ item ∈ calls, item.call.isAir = false

/-- An Attach Complete is being handled. -/
structure Completes (m : Mme) (h : Handling) : Prop where
  handling : m.handling = some h
  sm : h.ue.sm = .initialContextSetup
  body : ∃ container, h.message.body = .attachComplete container
  log : ∃ calls past, m.log = calls ++ ⟨some h, .emmMessage⟩ :: past

/-- `KeNB` is derived for the message that is being handled. -/
structure Derives (m : Mme) (h : Handling) : Prop where
  handling : m.handling = some h
  message : h.message.serviceRequest.isSome = true ∨
    (∃ request, h.message.body = .attachRequest request) ∨
    h.message.body = .securityModeComplete
  kasme : m.ue.kasme = h.ue.kasme
  ulCount : m.ue.ulCount = h.ue.ulCount
  t3450 : m.ue.t3450.pkbuf = none ∨ m.log.emmState = .securityMode
  log : ∃ past, m.log = ⟨some h, .emmMessage⟩ :: past

/-- Why an Initial Context Setup Request without an Attach Accept is sent. -/
inductive SetsUp (m : Mme) : Prop
  | serviceRequest {h : Handling} {past : MmeLog} (hcontinues : m.Continues h)
      (hmessage : h.message.serviceRequest.isSome = true)
      (hlog : m.log = ⟨some h, .kdfEnb h.ue.kasme h.ue.ulCount.i32⟩ ::
        ⟨some h, .emmMessage⟩ :: past)
  | request {h : Handling} (hcontinues : m.Continues h)
      (hcode : h.event.s1apCode = .initialUeMessage)
      (hmessage : h.message.serviceRequest = none)
      (hbody : (∃ request, h.message.body = .trackingAreaUpdateRequest request ∧
          request.activeFlag = true) ∨
        (∃ serviceType, h.message.body = .extendedServiceRequest serviceType) ∨
        ∃ imsiLen, h.message.body = .identityResponse imsiLen ∧
          h.ue.nasEps.type ≠ .attachRequest)
  | updateLocation (hhandling : m.handling = none)
      (hstate : m.log.emmState = .registered)

end Mme

section
variable [OgsCrypt]

/-- The operations of the handlers. -/
inductive MmeOp : Mme → Mme → Prop
  | keep {m : Mme} {ue : MmeUe} (hue : m.ue.Keeps ue) : MmeOp m { m with ue := ue }
  | protect {m : Mme} (dlCount : UInt32) : MmeOp m
      { m with ue := { m.ue with dlCount := dlCount, securityContextAvailable := true } }
  | air {m : Mme} (hstate : m.log.emmState ≠ .securityMode) : MmeOp m (mmeS6aSendAir m)
  | authenticationRequest {m : Mme} {rand autn : Octets16}
      (hpkbuf : m.ue.t3460.pkbuf = some (.authenticationRequest rand autn)) :
      MmeOp m (m.say (.authenticationRequest rand autn))
  | kdfEnb {m : Mme} {h : Handling} (hderives : m.Derives h) : MmeOp m m.kdfEnb
  | attachAccept {m : Mme} {s1apbuf : Octets32} {ue : MmeUe} (hhandling : m.handling = none)
      (hstate : m.log.emmState = m.ue.sm)
      (hpkbuf : m.ue.t3450.pkbuf = some s1apbuf ∨ s1apbuf = m.ue.kenb)
      (hue : ue.security = m.ue.security ∨
        ue.security = { m.ue with securityContextAvailable := true }.security)
      (hkept : ue.t3450.pkbuf = some s1apbuf) (ht3460 : ue.t3460 = m.ue.t3460) :
      MmeOp m (({ m.say (.attachAccept m.ue.sm) with ue := ue }).say
        (.initialContextSetupRequest ue.kasme s1apbuf))
  | initialContextSetupRequest {m : Mme} (hwhy : m.SetsUp) :
      MmeOp m (m.say (.initialContextSetupRequest m.ue.kasme m.ue.kenb))
  | ueContextModificationRequest {m : Mme} {h : Handling} (hcontinues : m.Continues h) :
      MmeOp m (m.say .ueContextModificationRequest)
  | emmToEsm {m : Mme} {queue : List MmeEvent}
      (hwhy : m.handling = none ∨ ∃ h, m.Continues h ∨ m.Completes h)
      (hqueue : ∀ e ∈ queue, e ∈ m.queue ∨ e = .esm none) :
      MmeOp m ({ m with queue := queue }.say .emmToEsm)
  | tauAccept {m : Mme} (hwhy : m.handling = none ∨ ∃ h, m.Continues h) :
      MmeOp m (m.say .tauAccept)

/-- Some operations lead from the first state to the second. -/
abbrev MmeOps : Mme → Mme → Prop := Relation.ReflTransGen MmeOp

variable {m m' : Mme} {ue ue' : MmeUe} {cfg : MmeConfig} {env : MmeEnv} {plain : Bytes}
  {h : Handling} {calls past : MmeLog} {rv : Rv}

theorem MmeOps.keep (hue : m.ue.Keeps ue) : MmeOps m { m with ue := ue } :=
  Relation.ReflTransGen.single (.keep hue)

theorem MmeOp.handling (h : MmeOp m m') : m'.handling = m.handling := by
  cases h <;> rfl

theorem MmeOp.emmState (h : MmeOp m m') : m'.log.emmState = m.log.emmState := by
  cases h <;> rfl

theorem MmeOp.queue (h : MmeOp m m') : ∀ e ∈ m'.queue, e ∈ m.queue ∨ e = .esm none := by
  cases h with
  | emmToEsm _ hqueue => exact hqueue
  | _ => exact fun e he => Or.inl he

/-- The record only grows. -/
theorem MmeOp.log (h : MmeOp m m') : ∃ calls, m'.log = calls ++ m.log := by
  cases h with
  | keep => exact ⟨[], rfl⟩
  | protect => exact ⟨[], rfl⟩
  | attachAccept => exact ⟨[_, _], rfl⟩
  | _ => exact ⟨[_], rfl⟩

theorem MmeOps.handling (h : MmeOps m m') : m'.handling = m.handling := by
  induction h with
  | refl => rfl
  | tail _ hop ih => rw [hop.handling, ih]

theorem MmeOps.emmState (h : MmeOps m m') : m'.log.emmState = m.log.emmState := by
  induction h with
  | refl => rfl
  | tail _ hop ih => rw [hop.emmState, ih]

theorem MmeOps.log (h : MmeOps m m') : ∃ calls, m'.log = calls ++ m.log := by
  induction h with
  | refl => exact ⟨[], rfl⟩
  | tail _ hop ih =>
    obtain ⟨calls, hcalls⟩ := ih
    obtain ⟨newer, hnewer⟩ := hop.log
    exact ⟨newer ++ calls, by rw [hnewer, hcalls, List.append_assoc]⟩

theorem MmeOps.queue (h : MmeOps m m') : ∀ e ∈ m'.queue, e ∈ m.queue ∨ e = .esm none := by
  induction h with
  | refl => exact fun e he => Or.inl he
  | tail _ hop ih =>
    intro e he
    rcases hop.queue e he with hmem | hnew
    · exact ih e hmem
    · exact Or.inr hnew

/-! ## A message that is being handled -/

omit [OgsCrypt] in
theorem Mme.During.keep (hd : m.During h calls past) (hue : ue.security = m.ue.security) :
    ({ m with ue := ue } : Mme).During h calls past where
  handling := hd.handling
  emmState := hd.emmState
  available := (congrArg MmeUe.securityContextAvailable hue).trans hd.available
  macFailed := (congrArg MmeUe.macFailed hue).trans hd.macFailed
  kasme := (congrArg MmeUe.kasme hue).trans hd.kasme
  ulCount := (congrArg MmeUe.ulCount hue).trans hd.ulCount
  log := hd.log
  calls := hd.calls

omit [OgsCrypt] in
theorem Mme.During.continues (hd : m.During h calls past) (hrequest : h.message.IsRequest)
    (hsm : h.InRegisterState) (hvalid : m.ue.SecurityContextIsValid) : m.Continues h where
  handling := hd.handling
  request := hrequest
  sm := hsm
  macFailed := hvalid.2.1
  available := hd.available ▸ hvalid.1
  notFailed := hd.macFailed ▸ hvalid.2.1
  log := ⟨calls, past, hd.log, hd.calls⟩

omit [OgsCrypt] in
/-- A granted request stays granted while the handling goes on. -/
theorem Mme.Continues.keep (hc : m.Continues h) (hhandling : m'.handling = m.handling)
    (hmac : m'.ue.macFailed = m.ue.macFailed) (hlog : m'.log = m.log) : m'.Continues h where
  handling := hhandling.trans hc.handling
  request := hc.request
  sm := hc.sm
  macFailed := hmac.trans hc.macFailed
  available := hc.available
  notFailed := hc.notFailed
  log := hlog ▸ hc.log

omit [OgsCrypt] in
theorem Mme.Continues.say {call : MmeCall} (hc : m.Continues h) (hcall : call.isAir = false) :
    (m.say call).Continues h where
  handling := hc.handling
  request := hc.request
  sm := hc.sm
  macFailed := hc.macFailed
  available := hc.available
  notFailed := hc.notFailed
  log := by
    obtain ⟨calls, past, hlog, hcalls⟩ := hc.log
    refine ⟨⟨m.handling, call⟩ :: calls, past, congrArg _ hlog, fun item hitem => ?_⟩
    rcases List.mem_cons.mp hitem with rfl | hitem
    · exact hcall
    · exact hcalls item hitem

/-- `KeNB` is derived for the message, if the context is valid. -/
theorem Mme.During.kdfEnbIfValid (hd : m.During h [] past)
    (hmessage : h.message.serviceRequest.isSome = true ∨
      (∃ request, h.message.body = .attachRequest request) ∨
      h.message.body = .securityModeComplete)
    (ht3450 : m.ue.t3450.pkbuf = none) :
    MmeOps m m.kdfEnbIfValid ∧ ∃ calls, m.kdfEnbIfValid.During h calls past ∧
      (m.kdfEnbIfValid.ue.SecurityContextIsValid →
        calls = [⟨some h, .kdfEnb h.ue.kasme h.ue.ulCount.i32⟩]) := by
  unfold Mme.kdfEnbIfValid
  by_cases hvalid : m.ue.SecurityContextIsValid
  · rw [if_pos hvalid]
    have hderives : m.Derives h :=
      ⟨hd.handling, hmessage, hd.kasme, hd.ulCount, Or.inl ht3450, past, hd.log⟩
    refine ⟨Relation.ReflTransGen.single (.kdfEnb hderives), _, ⟨hd.handling, ?_, hd.available,
      hd.macFailed, hd.kasme, hd.ulCount, ?_, ?_⟩, fun _ => rfl⟩
    · exact (MmeLog.emmState_cons rfl).trans hd.emmState
    · simp only [Mme.kdfEnb, Mme.say, hd.handling, hd.log, hd.kasme, hd.ulCount]
      rfl
    · intro item hitem
      rw [List.mem_singleton.mp hitem]
      rfl
  · rw [if_neg hvalid]
    exact ⟨Relation.ReflTransGen.refl, [], hd, fun h => absurd h hvalid⟩

/-! ## Protected messages -/

/-- A message is protected after its header has taken effect on the counts. -/
theorem nasSecurityEncode_some {message : NasMessage} {type : NasSecurityHeaderType}
    {pkbuf : Pkbuf} (htype : nasProtectedHeaderType message.securityHeaderType = some type)
    (hr : nasSecurityEncode ue message = .ok (ue', some pkbuf, rv)) :
    ∃ dlCount, ue' = { ue.encoding message with
        dlCount := dlCount, securityContextAvailable := true } ∧
      (ue.selectedIntAlgorithm ≠ 0 → NasIntegrityAlgorithm ue.selectedIntAlgorithm) := by
  obtain ⟨hprotected, -⟩ := nasProtectedHeaderType_some htype
  rw [nasSecurityEncode_eq htype] at hr
  split at hr
  · obtain ⟨⟨after, new⟩, hprotect, hr⟩ := Fallible.bind_eq_ok.mp hr
    cases hr
    refine ⟨_, (nasSecurityProtect_ok htype hprotect).2, fun hne => ?_⟩
    have hsame := (encoding_algorithms ue message).1
    rw [nasSecurityProtect_eq] at hprotect
    obtain ⟨_, _, hprotect⟩ := Fallible.bind_eq_ok.mp hprotect
    obtain ⟨_, _, hprotect⟩ := Fallible.bind_eq_ok.mp hprotect
    obtain ⟨checked, hmac, _⟩ := Fallible.bind_eq_ok.mp hprotect
    rw [if_pos (by simp [NasSecurityHeaderType.select, hprotected, hsame, hne])] at hmac
    rw [← hsame]
    apply nasIntegrityAlgorithm_of_ok hmac
    rwa [hsame]
  · cases hr

theorem emmBuild_ok {securityHeaderType : UInt8} (type : NasSecurityHeaderType) {pkbuf : Pkbuf}
    (htype : nasProtectedHeaderType securityHeaderType = some type)
    (hr : emmBuild securityHeaderType plain m = .ok (m', pkbuf)) :
    ∃ dlCount, m' = { m with ue := { m.ue.encoding ⟨securityHeaderType, 0x07, plain⟩ with
        dlCount := dlCount, securityContextAvailable := true } } ∧
      (m.ue.selectedIntAlgorithm ≠ 0 → NasIntegrityAlgorithm m.ue.selectedIntAlgorithm) := by
  obtain ⟨⟨ue, new, rv⟩, hencode, hr⟩ := Fallible.bind_eq_ok.mp hr
  obtain ⟨_, _, hr⟩ := Fallible.bind_eq_ok.mp hr
  obtain ⟨pkbuf, hsome, hr⟩ := Fallible.bind_eq_ok.mp hr
  cases hr
  cases Fallible.assertSome_eq_ok.mp hsome
  obtain ⟨dlCount, hue, halgorithm⟩ := nasSecurityEncode_some htype hencode
  exact ⟨dlCount, by rw [hue], halgorithm⟩

theorem emmBuildCiphered_ok (hr : emmBuildCiphered plain m = .ok m') :
    ∃ dlCount, m' =
      { m with ue := { m.ue with dlCount := dlCount, securityContextAvailable := true } } := by
  obtain ⟨⟨built, pkbuf⟩, hbuild, hr⟩ := Fallible.bind_eq_ok.mp hr
  cases hr
  obtain ⟨dlCount, hm', -⟩ :=
    emmBuild_ok { integrityProtected := true, ciphered := true } rfl hbuild
  exact ⟨dlCount, hm'⟩

/-- A Security Mode Command is protected with the keys that it starts. -/
theorem emmBuildSecurityModeCommand_ok {pkbuf : Pkbuf}
    (hr : emmBuildSecurityModeCommand cfg plain m = .ok (m', pkbuf)) :
    ∃ dlCount, m' = { m with
        ue := { m.ue.selectAlgorithms cfg with
          dlCount := dlCount, ulCount := .zero, securityContextAvailable := true }
        log := ⟨m.handling, .securityModeCommand m.ue.kasme (m.ue.selectAlgorithms cfg).knasInt⟩ ::
          m.log } ∧
      NasIntegrityAlgorithm (m.ue.selectAlgorithms cfg).selectedIntAlgorithm := by
  obtain ⟨_, hassert, hr⟩ := Fallible.bind_eq_ok.mp hr
  obtain ⟨dlCount, hm', halgorithm⟩ :=
    emmBuild_ok { integrityProtected := true, newSecurityContext := true } rfl hr
  exact ⟨dlCount, hm', halgorithm (Fallible.assert_eq_ok.mp hassert)⟩

/-! ## `nas-path.c` and `mme-path.c` -/

omit [OgsCrypt] in
theorem nasSendEmmToEsm_ok {container : Bytes} (hr : nasSendEmmToEsm env container m = .ok m') :
    ∃ queue, m' = ({ m with queue := queue } : Mme).say .emmToEsm ∧
      ∀ e ∈ queue, e ∈ m.queue ∨ e = .esm none := by
  obtain ⟨_, _, hr⟩ := Fallible.bind_eq_ok.mp hr
  cases hr
  refine ⟨_, rfl, fun e he => ?_⟩
  split at he
  · simpa using List.mem_append.mp he
  · exact Or.inl he

omit [OgsCrypt] in
theorem s1apSendInitialContextSetup_ok {kenb : Octets32}
    (hr : s1apSendInitialContextSetup kenb m = .ok m') :
    m' = m.say (.initialContextSetupRequest m.ue.kasme kenb) := by
  obtain ⟨_, _, hr⟩ := Fallible.bind_eq_ok.mp hr
  cases hr
  rfl

omit [OgsCrypt] in
theorem s1apSendUeContextModificationRequest_ok
    (hr : s1apSendUeContextModificationRequest m = .ok m') :
    m' = m.say .ueContextModificationRequest := by
  obtain ⟨_, _, hr⟩ := Fallible.bind_eq_ok.mp hr
  cases hr
  rfl

/-- Outside a message an Attach Accept goes out with the kept or a new request. -/
theorem nasSendAttachAccept_ok (hhandling : m.handling = none)
    (hstate : m.log.emmState = m.ue.sm) (hr : nasSendAttachAccept plain m = .ok m') :
    MmeOps m m' ∧ m'.ue.sm = m.ue.sm ∧ m'.ue.t3460 = m.ue.t3460 := by
  obtain ⟨⟨built, s1apbuf⟩, hpkbuf, hr⟩ := Fallible.bind_eq_ok.mp hr
  rw [s1apSendInitialContextSetup_ok hr]
  unfold nasAttachAcceptPkbuf at hpkbuf
  split at hpkbuf
  case h_1 kept hkept =>
    cases hpkbuf
    exact ⟨Relation.ReflTransGen.single
      (.attachAccept hhandling hstate (Or.inl hkept) (Or.inl rfl) rfl rfl), rfl, rfl⟩
  case h_2 =>
    obtain ⟨_, hbuild, hpkbuf⟩ := Fallible.bind_eq_ok.mp hpkbuf
    cases hpkbuf
    obtain ⟨dlCount, rfl⟩ := emmBuildCiphered_ok hbuild
    exact ⟨Relation.ReflTransGen.single
      (.attachAccept hhandling hstate (Or.inr rfl) (Or.inr rfl) rfl rfl), rfl, rfl⟩

/-- A Tracking Area Update Accept, with an Initial Context Setup Request if it asks for
one. -/
theorem nasSendTauAccept_ok {procedureCode : S1apProcedureCode}
    (hwhy : m.handling = none ∨ ∃ h, m.Continues h)
    (hsetsUp : ∀ dlCount, procedureCode = .initialContextSetup → Mme.SetsUp
      { m.say .tauAccept with
        ue := { m.ue with dlCount := dlCount, securityContextAvailable := true } })
    (hr : nasSendTauAccept procedureCode plain m = .ok m') :
    MmeOps m m' ∧ m'.ue.sm = m.ue.sm ∧ m'.ue.t3460 = m.ue.t3460 := by
  obtain ⟨built, hbuild, hr⟩ := Fallible.bind_eq_ok.mp hr
  obtain ⟨dlCount, rfl⟩ := emmBuildCiphered_ok hbuild
  have hops := (Relation.ReflTransGen.single (MmeOp.tauAccept hwhy)).tail (.protect dlCount)
  cases procedureCode with
  | initialContextSetup =>
    rw [s1apSendInitialContextSetup_ok hr]
    exact ⟨hops.tail (.initialContextSetupRequest (hsetsUp dlCount rfl)), rfl, rfl⟩
  | downlinkNasTransport =>
    cases hr
    exact ⟨hops, rfl, rfl⟩
  | _ => cases hr

theorem mmeSendDeleteSessionOrDetach_ok (hr : mmeSendDeleteSessionOrDetach plain m = .ok m') :
    MmeOps m m' ∧ m'.ue.sm = m.ue.sm ∧ m'.ue.t3460 = m.ue.t3460 := by
  unfold mmeSendDeleteSessionOrDetach at hr
  split at hr
  · cases hr
    exact ⟨MmeOps.keep ⟨rfl, Or.inl rfl, Or.inl rfl⟩, rfl, rfl⟩
  · obtain ⟨_, _, hr⟩ := Fallible.bind_eq_ok.mp hr
    split at hr
    · cases hr
      exact ⟨Relation.ReflTransGen.refl, rfl, rfl⟩
    · obtain ⟨dlCount, rfl⟩ := emmBuildCiphered_ok hr
      exact ⟨Relation.ReflTransGen.single (.protect dlCount), rfl, rfl⟩

end

end NextEpc

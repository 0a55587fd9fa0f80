import NextEpc.Mme.S11Frame

/-!
# The Attach Accept and T3450

An Attach Accept is sent again whenever T3450 expires, until the UE answers. It was built for a UE
with one session that has one bearer, and the same is asserted of the UE when it is sent again. In
the meantime the SGW may have a bearer added, and the UE a session.
-/

namespace NextEpc
open Fallible

/-- The timer of an Attach Accept runs with a message. -/
def S11Ue.KeepsAccept (ue : S11Ue) : Prop :=
  ue.sm = .initialContextSetup → ue.t3450.pkbuf.isSome = true

/-- A retransmission is counted. -/
def S11Ue.retry (ue : S11Ue) : S11Ue :=
  { ue with toMmeUe := { ue.toMmeUe with
    t3450 := { ue.t3450 with retryCount := ue.t3450.retryCount + 1 } } }

/-- The entry of `emm_state_exception` -/
def S11Ue.enterException (ue : S11Ue) : S11Ue :=
  { ue with toMmeUe := { ue.toMmeUe.clearAllTimers with sm := .exception } }

/-- Another record of the UE has the same state and message. -/
def S11Ue.SameAccept (ue ue' : S11Ue) : Prop :=
  ue'.sm = ue.sm ∧ ue'.t3450.pkbuf = ue.t3450.pkbuf

namespace S11Mme

/-! ## The timer -/

section
variable [OgsCrypt] [MmeCodec] (s : S11Mme) (cfg : MmeConfig) (mmeUe : MmeUeId)

/-- The T3450 timer in `emm_state_initial_context_setup`. In other states it is unknown. -/
def handleT3450 : MmeM S11Mme :=
  let ue := s.mmeUes.mem mmeUe
  if ue.sm = .initialContextSetup then
    if cfg.t3450MaxCount ≤ ue.t3450.retryCount then .ok (s.putMmeUe mmeUe ue.enterException)
    else (s.putMmeUe mmeUe ue.retry).nasSendAttachAccept mmeUe ue.retry
  else .ok s

end

/-! ## What happens in the meantime -/

/-- `mme_sess_add`, in slots that the pools give, if they give them -/
def mmeSessAdd [Ogslib] (s : S11Mme) (mmeUe : MmeUeId) (pti : UInt8) (slot : Option S11Sess)
    (bearerSlot : Option S11Bearer) : MmeM S11Mme := do
  assert .mmeContext (pti ≠ 0)
  let sess ← assertSome .mmeContext slot
  let (ue, sess, _) ← (s.mmeUes.mem mmeUe).bearerAdd { sess with pti, bearerList := [] } bearerSlot
  .ok (s.putMmeUe mmeUe { ue with sessList := ue.sessList ++ [sess] })

/-- An Attach Accept to a UE that is attached, after a Location Update Accept, which may have a
`p_tmsi`, or an ESM Information Response -/
def attachAccepted [OgsCrypt] [MmeCodec] (s : S11Mme) (mmeUe : MmeUeId) (pTmsi : Option UInt32) :
    MmeM S11Mme :=
  let ue := s.mmeUes.mem mmeUe
  s.nasSendAttachAccept mmeUe { ue with
    toMmeUe := { ue.toMmeUe with t3450 := .clear }
    pTmsi := pTmsi.getD ue.pTmsi }

/-- A bearer that was deactivated is removed, and its session with the default bearer. -/
def bearerDeactivated (s : S11Mme) (mmeUe : MmeUeId) (ebi : UInt8) : S11Mme :=
  let ue := s.mmeUes.mem mmeUe
  match ue.bearerFindByUeEbi ebi with
  | some (sess, bearer) =>
    if sess.defaultBearer.map S11Bearer.ebi = some bearer.ebi then
      s.putMmeUe mmeUe (ue.sessRemove sess.id)
    else
      let bearerList := sess.bearerList.filter fun b => b.id ≠ bearer.id
      s.putMmeUe mmeUe (ue.putSess { sess with bearerList })
  | none => s

inductive AttachStep
  | s11 (mmeUe : MmeUeId) (xact : Nat) (message : MmeS11Message)
  /-- A PDN Connectivity Request for an APN without a session -/
  | sessAdd (mmeUe : MmeUeId) (pti : UInt8) (slot : Option S11Sess) (bearerSlot : Option S11Bearer)
  | attachAccepted (mmeUe : MmeUeId) (pTmsi : Option UInt32)
  /-- The ESM state machine and S1AP write to the bearers of a UE. -/
  | bearers (mmeUe : MmeUeId) (f : S11Bearer → S11Bearer)
  | bearerDeactivated (mmeUe : MmeUeId) (ebi : UInt8)
  /-- S1AP adds, changes and removes connections. -/
  | enbUes (enbUes : Pool S11EnbUe)
  /-- The UE gets a connection that is there, or loses its own. -/
  | connection (mmeUe : MmeUeId) (enbUe : Option EnbUeId)
  | t3450Expire (mmeUe : MmeUeId)

section
variable [Ogslib] [OgsCrypt] [MmeCodec] (cfg : MmeConfig)

def attachStep [OgsConv] (s : S11Mme) : AttachStep → MmeM S11Mme
  | .s11 mmeUe xact message => s.s11Handle mmeUe xact message
  | .sessAdd mmeUe pti slot bearerSlot => s.mmeSessAdd mmeUe pti slot bearerSlot
  | .attachAccepted mmeUe pTmsi => s.attachAccepted mmeUe pTmsi
  | .bearers mmeUe f => .ok (s.putMmeUe mmeUe ((s.mmeUes.mem mmeUe).updateBearers f))
  | .bearerDeactivated mmeUe ebi => .ok (s.bearerDeactivated mmeUe ebi)
  | .enbUes enbUes => .ok { s with enbUes := enbUes }
  | .connection mmeUe enbUe => do
    if let some enbUe := enbUe then s.useEnbUe enbUe
    let ue := s.mmeUes.mem mmeUe
    .ok (s.putMmeUe mmeUe { ue with toMmeUe := { ue.toMmeUe with enbUe := enbUe } })
  | .t3450Expire mmeUe => s.handleT3450 cfg mmeUe

/-- A run, as long as nothing is asserted that does not hold. -/
def attachRun [OgsConv] (s : S11Mme) (steps : List AttachStep) : MmeM S11Mme :=
  steps.foldlM (attachStep cfg) s

/-! ## When an expiry is handled -/

/-- The timer has expired: the Attach Accept is sent again, or there were enough retransmissions
and the MME gives up. -/
def ExpiryHandled (s : S11Mme) (mmeUe : MmeUeId) : Prop :=
  ∃ s', s.handleT3450 cfg mmeUe = .ok s' ∧
    (((s.mmeUes.mem mmeUe).t3450.retryCount < cfg.t3450MaxCount ∧
      (∃ enbUe kenb, s'.sent = s.sent ++ [.toEnbUeAgain enbUe kenb]) ∧
      (s'.mmeUes.mem mmeUe).t3450.retryCount = (s.mmeUes.mem mmeUe).t3450.retryCount + 1) ∨
    (cfg.t3450MaxCount ≤ (s.mmeUes.mem mmeUe).t3450.retryCount ∧
      (s'.mmeUes.mem mmeUe).sm = .exception ∧ s'.sent = s.sent))

end

/-- The UE has a connection that is there and one session with one bearer, unless there were enough
retransmissions. -/
def ExpiryAllowed (cfg : MmeConfig) (s : S11Mme) (mmeUe : MmeUeId) : Prop :=
  (s.mmeUes.mem mmeUe).t3450.retryCount < cfg.t3450MaxCount →
    (∃ enbUe, (s.mmeUes.mem mmeUe).enbUe = some enbUe ∧ s.enbUes.live enbUe = true) ∧
      ∃ sess bearer, (s.mmeUes.mem mmeUe).sessList = [sess] ∧ sess.bearerList = [bearer]

/-! ## What is kept -/

/-- The message of a UE is kept. -/
def AcceptKept (u : MmeUeId) (s : S11Mme) : Prop := (s.mmeUes.mem u).KeepsAccept

end S11Mme

namespace S11Ue
variable {ue ue' : S11Ue}

/-- A message that is counted is no Attach Accept. -/
theorem Counted.sameAccept (h : ue.Counted ue') : ue.SameAccept ue' := by
  obtain ⟨dlCount, available, rfl⟩ := h
  exact ⟨rfl, rfl⟩

theorem KeepsAccept.same (h : ue.KeepsAccept) (hsame : ue.SameAccept ue') : ue'.KeepsAccept := by
  intro hsm
  rw [hsame.1] at hsm
  rw [hsame.2]
  exact h hsm

/-- No write to sessions, bearers or counters takes the message away. -/
theorem stable_keepsAccept : Stable KeepsAccept where
  counted _ _ hcounted h := h.same hcounted.sameAccept
  putSess _ _ h := h
  updateBearers _ _ h := h
  updateBearer _ _ _ h := h
  ebi _ _ h := h
  guti _ h := h
  counters _ _ _ h := h

/-- With a message under T3450, nothing more is asked. -/
theorem keepsAccept_keep (ue : S11Ue) (kenb : Octets32) : (ue.keep kenb).KeepsAccept :=
  fun _ => rfl

theorem ensures_bearerAdd [Ogslib] (ue : S11Ue) (sess : S11Sess) (slot : Option S11Bearer) :
    Ensures (ue.bearerAdd sess slot) fun r => ue.SameAccept r.1 :=
  ensures_assertSome fun _ _ => ensures_ok ⟨rfl, rfl⟩

end S11Ue

namespace S11Mme
variable {s : S11Mme} {u mmeUe : MmeUeId} {ue : S11Ue}

theorem AcceptKept.put (h : AcceptKept u s) (hue : (s.mmeUes.mem mmeUe).KeepsAccept →
    ue.KeepsAccept) : AcceptKept u (s.putMmeUe mmeUe ue) :=
  Kept.put h fun hu => hue (hu ▸ h)

theorem AcceptKept.putSame (h : AcceptKept u s) (hue : (s.mmeUes.mem mmeUe).SameAccept ue) :
    AcceptKept u (s.putMmeUe mmeUe ue) := h.put fun hkeeps => hkeeps.same hue

theorem AcceptKept.cleanupSession (h : AcceptKept u s) (mmeUe owner : MmeUeId) (id : MmeSessId) :
    AcceptKept u (s.cleanupSession mmeUe owner id) := by
  unfold S11Mme.cleanupSession
  simp only []
  split_ifs
  · have hcleared : AcceptKept u (s.putMmeUe mmeUe (s.mmeUes.mem mmeUe).clearSessionContext) :=
      h.putSame ⟨rfl, rfl⟩
    exact hcleared.putSame ⟨rfl, rfl⟩
  · exact h.putSame ⟨rfl, rfl⟩

section
variable [OgsCrypt] [MmeCodec]

/-- A new message is kept, and an old one stays. -/
theorem ensures_nasSendAttachAccept (h : AcceptKept u s) (mmeUe : MmeUeId) (ue : S11Ue) :
    Ensures (s.nasSendAttachAccept mmeUe ue) (AcceptKept u) :=
  Kept.nasSendAttachAccept S11Ue.stable_keepsAccept h fun _ _ => ue.keepsAccept_keep _

/-- No message from the SGW takes the message of a UE away. -/
theorem ensures_s11Handle [OgsConv] [Ogslib] (h : AcceptKept u s) (mmeUe : MmeUeId) (xact : Nat)
    (message : MmeS11Message) : Ensures (s.s11Handle mmeUe xact message) (AcceptKept u) := by
  cases message with
  | createSessionResponse =>
    refine Kept.createSessionResponse S11Ue.stable_keepsAccept h (fun hu _ sess pdn teid paa => ?_)
      _ _ _ _
    have hcreated : (createdUe (s.mmeUes.mem mmeUe) sess pdn teid paa).KeepsAccept := Kept.at h hu
    exact ⟨hcreated, fun _ => ⟨hcreated, fun _ => S11Ue.keepsAccept_keep _ _⟩⟩
  | deleteSessionResponse =>
    refine (Kept.deleteSessionResponse S11Ue.stable_keepsAccept h (Kept.at h) _ _).mono ?_
    rintro s' (⟨owner, id, s₁, -, hs₁, rfl⟩ | ⟨hs', -⟩)
    · exact AcceptKept.cleanupSession hs₁ _ _ _
    · exact hs'
  | _ =>
    refine Kept.s11Handle S11Ue.stable_keepsAccept h _ _ ?_ ?_
    · simp
    · simp

/-! ## Runs -/

section
variable [Ogslib] {cfg : MmeConfig}

theorem ensures_attachStep [OgsConv] (h : AcceptKept u s) (step : AttachStep) :
    Ensures (s.attachStep cfg step) (AcceptKept u) := by
  cases step with
  | s11 mmeUe xact message => exact ensures_s11Handle h _ _ _
  | sessAdd mmeUe pti slot bearerSlot =>
    refine ensures_assert fun _ => ensures_assertSome fun sess _ => ?_
    refine Ensures.bind (S11Ue.ensures_bearerAdd _ _ _) fun added hadded => ?_
    exact ensures_ok (h.putSame hadded)
  | attachAccepted mmeUe pTmsi => exact ensures_nasSendAttachAccept h _ _
  | bearers mmeUe f => exact ensures_ok (h.putSame ⟨rfl, rfl⟩)
  | bearerDeactivated mmeUe ebi =>
    refine ensures_ok ?_
    unfold S11Mme.bearerDeactivated
    simp only []
    split
    · split_ifs
      · exact h.putSame ⟨rfl, rfl⟩
      · exact h.putSame ⟨rfl, rfl⟩
    · exact h
  | enbUes enbUes => exact ensures_ok h
  | connection mmeUe enbUe =>
    cases enbUe with
    | none => exact ensures_ok (h.putSame ⟨rfl, rfl⟩)
    | some enbUe => exact ensures_bind fun _ _ => ensures_ok (h.putSame ⟨rfl, rfl⟩)
  | t3450Expire mmeUe =>
    unfold attachStep handleT3450
    refine ensures_ite (fun _ => ensures_ite (fun _ => ensures_ok ?_) fun _ => ?_) fun _ =>
      ensures_ok h
    · exact h.put fun _ => nofun
    · refine ensures_nasSendAttachAccept (h.putSame ?_) _ _
      exact ⟨rfl, rfl⟩

theorem ensures_attachRun [OgsConv] (h : AcceptKept u s) (steps : List AttachStep) :
    Ensures (s.attachRun cfg steps) (AcceptKept u) :=
  ensures_foldlM (fun _ hs step _ => ensures_attachStep hs step) h

end

/-! ## Sending again -/

/-- After an Attach Accept there is a message to send again. -/
theorem ensures_accept_sent (s : S11Mme) (mmeUe : MmeUeId) (ue : S11Ue) :
    Ensures ((s.putMmeUe mmeUe ue).nasSendAttachAccept mmeUe ue) (AcceptKept mmeUe) := by
  have hput (s : S11Mme) (ue : S11Ue) (h : ue.t3450.pkbuf.isSome = true) :
      AcceptKept mmeUe (s.putMmeUe mmeUe ue) := by
    unfold AcceptKept
    rw [mem_putMmeUe, if_pos rfl]
    exact fun _ => h
  unfold nasSendAttachAccept
  split
  · split
    · split
      · rename_i kenb hkenb
        refine ensures_assertSome fun _ _ => ensures_bind fun _ _ => ensures_ok ?_
        exact hput s ue (by rw [hkenb, Option.isSome_some])
      · refine ensures_bind fun _ _ => ensures_bind fun _ _ => ensures_assertSome fun _ _ =>
          ensures_bind fun _ _ => ensures_ok ?_
        exact hput _ _ rfl
    · exact ensures_error _
  · exact ensures_error _

/-- A message that is kept is sent again to a UE that is connected and has what is asserted. -/
theorem nasSendAttachAccept_again (s s' : S11Mme) (mmeUe : MmeUeId) {kenb : Octets32}
    (hkenb : ue.t3450.pkbuf = some kenb) : s.nasSendAttachAccept mmeUe ue = .ok s' ↔
      (∃ sess bearer, ue.sessList = [sess] ∧ sess.bearerList = [bearer]) ∧
        ∃ enbUe, ue.enbUe = some enbUe ∧ s.enbUes.live enbUe = true ∧
          s.send (.toEnbUeAgain enbUe kenb) = s' := by
  unfold nasSendAttachAccept
  simp only [hkenb]
  split
  · rename_i sess hsess
    split
    · rename_i bearer hbearer
      simp [bind_eq_ok, useEnbUe_eq_ok, hsess, hbearer]
    · rename_i hbearer
      refine iff_of_false nofun ?_
      rintro ⟨⟨sess', bearer, hsess', hbearer'⟩, -⟩
      obtain rfl : sess = sess' := by simpa [hsess] using hsess'
      exact hbearer bearer hbearer'
  · rename_i hsess
    refine iff_of_false nofun ?_
    rintro ⟨⟨sess, -, hsess', -⟩, -⟩
    exact hsess sess hsess'

/-- After enough retransmissions the MME gives up. -/
theorem handleT3450_gives_up {cfg : MmeConfig} (hsm : (s.mmeUes.mem u).sm = .initialContextSetup)
    (hcount : cfg.t3450MaxCount ≤ (s.mmeUes.mem u).t3450.retryCount) : s.ExpiryHandled cfg u := by
  refine ⟨s.putMmeUe u (s.mmeUes.mem u).enterException, ?_, .inr ⟨hcount, ?_, rfl⟩⟩
  · rw [handleT3450, if_pos hsm, if_pos hcount]
  · rw [mem_putMmeUe, if_pos rfl]
    rfl

/-- Below the maximum, the timer is handled for a UE that has what is asserted, and no other. -/
theorem expiryHandled_iff_of_kept {cfg : MmeConfig} (h : AcceptKept u s)
    (hsm : (s.mmeUes.mem u).sm = .initialContextSetup) :
    s.ExpiryHandled cfg u ↔ ExpiryAllowed cfg s u := by
  unfold ExpiryAllowed
  obtain ⟨kenb, hkenb⟩ := Option.isSome_iff_exists.mp (h hsm)
  by_cases hcount : cfg.t3450MaxCount ≤ (s.mmeUes.mem u).t3450.retryCount
  · exact iff_of_true (handleT3450_gives_up hsm hcount) fun hlt => absurd hcount (by omega)
  have hretry : (s.mmeUes.mem u).retry.t3450.pkbuf = some kenb := hkenb
  have hagain (s' : S11Mme) :=
    nasSendAttachAccept_again (s.putMmeUe u (s.mmeUes.mem u).retry) s' u hretry
  have hhandle : s.handleT3450 cfg u =
      (s.putMmeUe u (s.mmeUes.mem u).retry).nasSendAttachAccept u (s.mmeUes.mem u).retry := by
    rw [handleT3450, if_pos hsm, if_neg hcount]
  unfold ExpiryHandled
  rw [hhandle]
  constructor
  · rintro ⟨s', hs', -⟩ -
    obtain ⟨hone, enbUe, henbUe, hlive, -⟩ := (hagain s').mp hs'
    exact ⟨⟨enbUe, henbUe, hlive⟩, hone⟩
  · intro hallowed
    obtain ⟨⟨enbUe, henbUe, hlive⟩, hone⟩ := hallowed (by omega)
    refine ⟨_, (hagain _).mpr ⟨hone, enbUe, henbUe, hlive, rfl⟩,
      .inl ⟨by omega, ⟨enbUe, kenb, rfl⟩, ?_⟩⟩
    rw [show ((s.putMmeUe u _).send _).mmeUes = (s.putMmeUe u _).mmeUes from rfl, mem_putMmeUe,
      if_pos rfl]
    rfl

/-- Between an Attach Accept and the answer to it, T3450 is handled in those states in which the UE
has a connection that is there and one session with one bearer. -/
theorem expiryHandled_iff [OgsConv] [Ogslib] {cfg : MmeConfig} {s₀ s₁ : S11Mme}
    {steps : List AttachStep} (hsent : (s₀.putMmeUe u ue).nasSendAttachAccept u ue = .ok s₁)
    (hrun : s₁.attachRun cfg steps = .ok s) (hsm : (s.mmeUes.mem u).sm = .initialContextSetup) :
    s.ExpiryHandled cfg u ↔ ExpiryAllowed cfg s u := by
  have hkept : AcceptKept u s := ensures_attachRun (ensures_accept_sent s₀ u ue s₁ hsent) steps s
    hrun
  exact expiryHandled_iff_of_kept hkept hsm

end

attribute [local instance] Ogslib.reference OgsConv.reference OgsCrypt.reference MmeCodec.reference

/-- The default bearer of the sample, with a tunnel to the SGW -/
def sampleBearer : S11Bearer where
  id := 0
  ebi := 5
  sm := .inactive
  enbS1uTeid := 0
  sgwS1u := ⟨1, [10, 0, 0, 1], by simp⟩
  enbDlTeid := 0
  enbUlTeid := 0
  sgwDl := .unused
  sgwUl := .unused
  qos := (gtpBearerQosFields []).qos
  tft := none
  xact := none

/-- A UE with one session that has one bearer -/
def sampleUe : S11Ue where
  toMmeUe := { MmeUe.zero with
    sm := .initialContextSetup, securityContextAvailable := true, selectedIntAlgorithm := 2
    enbUe := some 0 }
  tai := ⟨[0x00, 0xf1, 0x10], 1⟩
  guti := none
  pTmsi := 0
  csmap := none
  ambr := ⟨0, 0⟩
  pdns _ := ⟨CString.copy [105], (gtpBearerQosFields []).qos, ⟨0, 0⟩, [1, 45, 45, 0, 2]⟩
  ebi := 5
  sessList := [⟨0, 1, some 0, none, [sampleBearer]⟩]
  ueRadioCapability := none
  container := none
  pathSwitchCounter := ⟨0, 0⟩
  handoverNotifyCounter := ⟨0, 0⟩

def sampleS11 : S11Mme where
  mmeUes := (Pool.unused fun _ => sampleUe).alloc 0
  enbUes := (Pool.unused fun _ => ⟨⟨1, 1⟩, 0, none, some 0, .invalidAction, .clear⟩).alloc 0
  servedTai _ := some 0
  csmaps _ := none
  vlrSock _ := false
  vlrConnected _ := false
  sent := []

/-- The SGW asks for a dedicated bearer. -/
def sampleRequest : AttachStep :=
  .s11 0 0 (.createBearerRequest (some { sampleBearer with id := 1 }) (some 5) (some
    { epsBearerId := some 0
      s1UEnodebFTeid := some ⟨true, false, 2, .replicate 4 10, .replicate 16 0⟩
      s4USgsnFTeid := none
      s2bUEpdgFTeid5 := none
      bearerLevelQos := some (.replicate gtpBearerQosLen 1)
      tft := some [0x21] }))

/-- The Attach Accept to the sample -/
def sampleAccept : MmeM S11Mme := (sampleS11.putMmeUe 0 sampleUe).nasSendAttachAccept 0 sampleUe

/-- A run of the sample, with what is read of the state after it -/
theorem exists_sampleRun {β : Type} (steps : List AttachStep) (read : S11Mme → β) (b : β)
    (h : ((sampleAccept >>= fun s₁ => s₁.attachRun ⟨[2], [0], 4, 4, 4⟩ steps).toOption.map
      read) = some b) :
    ∃ s₁ s, sampleAccept = .ok s₁ ∧ s₁.attachRun ⟨[2], [0], 4, 4, 4⟩ steps = .ok s ∧
      read s = b := by
  obtain ⟨s, hs, hread⟩ := Option.map_eq_some_iff.mp h
  obtain ⟨s₁, hsent, hrun⟩ := bind_eq_ok.mp (toOption_eq_some.mp hs)
  exact ⟨s₁, s, hsent, hrun, hread⟩

/-- After the timer of the sample has expired, it can expire again. -/
theorem expiryHandled_iff_again : ∃ s₁ s : S11Mme, sampleAccept = .ok s₁ ∧
    s₁.attachRun ⟨[2], [0], 4, 4, 4⟩ [.t3450Expire 0] = .ok s ∧
    s.ExpiryHandled ⟨[2], [0], 4, 4, 4⟩ 0 := by
  obtain ⟨s₁, s, hsent, hrun, hread⟩ := exists_sampleRun [.t3450Expire 0]
    (fun s => ((s.mmeUes.mem 0).sm, (s.mmeUes.mem 0).enbUe, s.enbUes.live 0,
      (s.mmeUes.mem 0).sessList.map fun sess => sess.bearerList.map S11Bearer.ebi))
    (.initialContextSetup, some 0, true, [[5]]) (by decide +kernel)
  simp only [Prod.mk.injEq] at hread
  obtain ⟨hsm, hconnected, hlive, hebis⟩ := hread
  obtain ⟨sess, hsess, hebi⟩ := List.map_eq_singleton_iff.mp hebis
  obtain ⟨bearer, hbearer, -⟩ := List.map_eq_singleton_iff.mp hebi
  exact ⟨s₁, s, hsent, hrun, (expiryHandled_iff hsent hrun hsm).mpr fun _ =>
    ⟨⟨0, hconnected, hlive⟩, sess, bearer, hsess, hbearer⟩⟩

/-- With a dedicated bearer that was added after the Attach Accept, an expiry of T3450 ends in an
assertion. -/
theorem not_expiryHandled_createBearerRequest :
    ¬∀ (cfg : MmeConfig) (u : MmeUeId) (ue : S11Ue) (s₀ s₁ s : S11Mme) (steps : List AttachStep),
      (s₀.putMmeUe u ue).nasSendAttachAccept u ue = .ok s₁ → s₁.attachRun cfg steps = .ok s →
      (s.mmeUes.mem u).sm = .initialContextSetup → s.ExpiryHandled cfg u := by
  intro hclaim
  obtain ⟨s₁, s, hsent, hrun, hread⟩ := exists_sampleRun [sampleRequest]
    (fun s => ((s.mmeUes.mem 0).sm, (s.mmeUes.mem 0).t3450.retryCount,
      (s.mmeUes.mem 0).sessList.map fun sess => sess.bearerList.length))
    (.initialContextSetup, 0, [2]) (by decide +kernel)
  simp only [Prod.mk.injEq] at hread
  obtain ⟨hsm, hcount, hlengths⟩ := hread
  have hkept : AcceptKept 0 s := ensures_attachRun (ensures_accept_sent _ 0 _ s₁ hsent) _ s hrun
  have hhandled := hclaim _ 0 _ _ s₁ s _ hsent hrun hsm
  obtain ⟨-, sess, bearer, hsess, hbearer⟩ :=
    (expiryHandled_iff_of_kept hkept hsm).mp hhandled (by rw [hcount]; decide)
  rw [hsess, List.map_singleton, hbearer] at hlengths
  simp at hlengths

end S11Mme
end NextEpc

import NextEpc.Lib.Footprint
import NextEpc.Mme.S11Returns

/-!
# What S11 messages leave of a UE

Handlers of S11 messages write to the sessions and bearers of a UE, count what they send, and keep
an Attach Accept. A condition on UEs that single writes of these kinds keep is kept by the handlers,
but for what is asked of a session that is created or deleted.
-/

namespace NextEpc
open Fallible

namespace S11Ue

/-- A message is kept under T3450. -/
def keep (ue : S11Ue) (kenb : Octets32) : S11Ue :=
  { ue with toMmeUe := { ue.toMmeUe with t3450 := { ue.t3450 with pkbuf := some kenb } } }

/-- A condition that is kept by writes to sessions, bearers and counters -/
structure Stable (K : S11Ue → Prop) : Prop where
  counted : ∀ ue ue', ue.Counted ue' → K ue → K ue'
  putSess : ∀ ue sess, K ue → K (ue.putSess sess)
  updateBearers : ∀ ue f, K ue → K (ue.updateBearers f)
  updateBearer : ∀ ue ebi f, K ue → K (ue.updateBearer ebi f)
  ebi : ∀ ue ebi, K ue → K { ue with ebi := ebi }
  guti : ∀ ue, K ue → K { ue with guti := none }
  counters : ∀ ue pathSwitch handoverNotify, K ue →
    K { ue with pathSwitchCounter := pathSwitch, handoverNotifyCounter := handoverNotify }

variable {K : S11Ue → Prop} {ue ue' : S11Ue}

/-- A message that is kept does not come in the way of other writes. -/
theorem Stable.keep (hK : Stable K) (kenb : Octets32) : Stable fun ue => K (ue.keep kenb) where
  counted ue ue' := by
    rintro ⟨dlCount, available, rfl⟩
    exact hK.counted (ue.keep kenb) _ ⟨dlCount, available, rfl⟩
  putSess ue := hK.putSess (ue.keep kenb)
  updateBearers ue := hK.updateBearers (ue.keep kenb)
  updateBearer ue := hK.updateBearer (ue.keep kenb)
  ebi ue := hK.ebi (ue.keep kenb)
  guti ue := hK.guti (ue.keep kenb)
  counters ue := hK.counters (ue.keep kenb)

section
variable [OgsCrypt] [MmeCodec]

theorem Stable.nasSecurityEncode (hK : Stable K) (h : K ue) (nas : S11Nas) :
    Ensures (ue.nasSecurityEncode nas) fun r => K r.1 :=
  fun r hr => hK.counted ue r.1 (counted_nasSecurityEncode hr) h

theorem Stable.esmBuildActivateDefault (hK : Stable K) (h : K ue) (sess : S11Sess) :
    Ensures (ue.esmBuildActivateDefaultBearerContextRequest sess) fun r => K r.1 := by
  unfold esmBuildActivateDefaultBearerContextRequest
  refine ensures_assertSome fun pdn _ => ?_
  simp only []
  split
  · refine ensures_bind fun _ _ => ensures_bind fun pco _ => ensures_bind fun r hr => ensures_ok ?_
    exact hK.counted _ _ (counted_nasEncode hr) (hK.putSess ue _ h)
  · exact ensures_error _

end

theorem Stable.bearerAdd [Ogslib] (hK : Stable K) (h : K ue) (sess : S11Sess)
    (slot : Option S11Bearer) : Ensures (ue.bearerAdd sess slot) fun r => K r.1 :=
  ensures_assertSome fun _ _ => ensures_ok (hK.putSess _ _ (hK.ebi ue _ h))

end S11Ue

namespace S11Mme
variable {K : S11Ue → Prop} {s : S11Mme} {u mmeUe : MmeUeId} {ue : S11Ue}

/-- The condition on the record of a UE -/
def Kept (K : S11Ue → Prop) (u : MmeUeId) (s : S11Mme) : Prop := K (s.mmeUes.mem u)

/-- A UE that is registered has asked for the end of the session, and is told that the SGW agrees. -/
def Disconnects (s : S11Mme) (mmeUe : MmeUeId) (sess : Option (MmeUeId × MmeSessId)) : Prop :=
  (s.mmeUes.mem mmeUe).sm = .registered ∧ ∃ owner id sess' bearer, sess = some (owner, id) ∧
    (s.mmeUes.mem owner).sessList.find? (fun sess => sess.id = id) = some sess' ∧
    sess'.defaultBearer = some bearer ∧ bearer.sm = .pdnWillDisconnect

theorem mem_putMmeUe (s : S11Mme) (mmeUe : MmeUeId) (ue : S11Ue) :
    (s.putMmeUe mmeUe ue).mmeUes.mem u = if u = mmeUe then ue else s.mmeUes.mem u := by
  rw [putMmeUe, Pool.mem_modify]

theorem Kept.put (h : Kept K u s) (hue : u = mmeUe → K ue) : Kept K u (s.putMmeUe mmeUe ue) := by
  unfold Kept
  rw [mem_putMmeUe]
  split_ifs with hu
  · exact hue hu
  · exact h

/-- What is asked of a UE holds of its record. -/
theorem Kept.at (h : Kept K u s) (hu : u = mmeUe) : K (s.mmeUes.mem mmeUe) := hu ▸ h

theorem ensures_storeTunnels (hK : S11Ue.Stable K) (hue : u = mmeUe → K ue)
    (contexts : List (Option GtpBearerContext)) :
    Ensures (storeTunnels ue contexts) fun r => u = mmeUe → K r.1 := by
  induction contexts generalizing ue with
  | nil => exact ensures_error _
  | cons context contexts ih =>
    cases context with
    | none => exact ensures_ok hue
    | some context =>
      unfold storeTunnels
      split
      · exact ensures_ok hue
      · refine ensures_assertSome fun _ _ => ensures_bind fun _ _ => ensures_bind fun _ _ => ?_
        exact ih fun hu => hK.updateBearer _ _ _ (hue hu)

/-! ## Messages that are sent -/

section
variable [MmeCodec]

theorem Kept.sendToEnbUe (h : Kept K u s) (enbUe : EnbUeId) (pdu : S11Pdu)
    (nasPdu : Option Bytes) : Ensures (s.sendToEnbUe enbUe pdu nasPdu) (Kept K u) :=
  ensures_bind fun _ _ => ensures_assert fun _ => ensures_ok h

theorem Kept.releaseCommand (h : Kept K u s) (enbUe : EnbUeId) (cause : S1apCause)
    (action : UeCtxRelAction) (delay : Bool) :
    Ensures (s.clearAndRelease enbUe cause action delay) (Kept K u) := by
  have hcleared : Ensures (s.clearEnbUeTimer enbUe) (Kept K u) :=
    ensures_bind fun _ _ => ensures_ok h
  refine hcleared.bind fun s h => ensures_bind fun _ _ => ?_
  split_ifs
  · exact ensures_assert fun _ => ensures_bind fun pdu _ => ensures_ok h
  · split
    · exact ensures_ok h
    · exact ensures_assert fun _ => ensures_bind fun pdu _ => ensures_ok h

theorem Kept.pathSwitchAck (h : Kept K u s) (mmeUe : MmeUeId) :
    Ensures (s.s1apSendPathSwitchAck mmeUe) (Kept K u) :=
  ensures_assertSome fun _ _ => h.sendToEnbUe _ _ _

theorem Kept.downlinkNasTransport (h : Kept K u s) (enbUe : Option EnbUeId)
    (pkbuf : Bytes) : Ensures (s.nasSendToDownlinkNasTransport enbUe pkbuf) (Kept K u) := by
  unfold nasSendToDownlinkNasTransport
  split
  · exact h.sendToEnbUe _ _ _
  · exact ensures_ok h

theorem Kept.sendERabSetupRequest (hK : S11Ue.Stable K) (h : Kept K u s) (hue : u = mmeUe → K ue)
    (sess : S11Sess) (bearer : S11Bearer) (esmbuf : Bytes) :
    Ensures (s.sendERabSetupRequest mmeUe ue sess bearer esmbuf) (Kept K u) := by
  refine ensures_assertSome fun _ _ => ensures_bind fun _ _ => ?_
  exact (h.put fun hu => hK.putSess _ _ (hue hu)).sendToEnbUe _ _ _

theorem Kept.releaseLastSession (h : Kept K u s) (mmeUe : MmeUeId) :
    Ensures (s.releaseLastSession mmeUe) (Kept K u) := by
  unfold S11Mme.releaseLastSession
  simp only []
  split_ifs
  · split
    · exact h.releaseCommand _ _ _ _
    · exact ensures_ok h
  · exact ensures_ok h

end

section
variable [OgsCrypt] [MmeCodec]

/-- An Attach Accept is built for the UE with the message that is kept, or sent again. -/
theorem Kept.nasSendAttachAccept (hK : S11Ue.Stable K) (h : Kept K u s)
    (hue : u = mmeUe → ∀ kenb, K (ue.keep kenb)) :
    Ensures (s.nasSendAttachAccept mmeUe ue) (Kept K u) := by
  unfold S11Mme.nasSendAttachAccept
  split
  · split
    · split
      · exact ensures_assertSome fun _ _ => ensures_bind fun _ _ => ensures_ok h
      · refine ensures_bind fun r hr => ensures_bind fun accept haccept =>
          ensures_assertSome fun _ _ => ensures_bind fun built hbuilt => ensures_ok ?_
        refine h.put fun hu => ?_
        -- The message is kept at the end, so that each step is taken with it.
        have hKm := hK.keep built.1.kenb
        have hesm := hKm.esmBuildActivateDefault (hue hu _) _ r hr
        have hemm : K (accept.1.keep built.1.kenb) := by
          obtain ⟨_, -, haccept⟩ := bind_eq_ok.mp haccept
          exact hKm.nasSecurityEncode (hKm.guti _ hesm) _ accept haccept
        obtain ⟨_, -, hbuilt⟩ := bind_eq_ok.mp hbuilt
        obtain ⟨_, -, hbuilt⟩ := bind_eq_ok.mp hbuilt
        obtain ⟨_, -, hbuilt⟩ := bind_eq_ok.mp hbuilt
        cases hbuilt
        exact hKm.updateBearers _ _ hemm
    · exact ensures_error _
  · exact ensures_error _

theorem Kept.nasSendDetachAccept (hK : S11Ue.Stable K) (h : Kept K u s) (mmeUe : MmeUeId) :
    Ensures (s.nasSendDetachAccept mmeUe) (Kept K u) := by
  unfold S11Mme.nasSendDetachAccept
  refine ensures_assertSome fun enbUe _ => ?_
  have hrelease {s' : S11Mme} (hs' : Kept K u s') :
      Ensures (s'.clearAndRelease enbUe causeNasDetach .s1NormalRelease false) (Kept K u) :=
    hs'.releaseCommand _ _ _ _
  refine ensures_ite (fun _ => hrelease h) fun _ => ensures_bind fun r hr => ?_
  have hput : Kept K u (s.putMmeUe mmeUe r.1) :=
    h.put fun hu => hK.nasSecurityEncode (h.at hu) _ r hr
  exact (hput.downlinkNasTransport _ _).bind fun s' hs' => hrelease hs'

theorem Kept.activateDefault (hK : S11Ue.Stable K) (h : Kept K u s) (hue : u = mmeUe → K ue)
    (sess : S11Sess) :
    Ensures (s.nasSendActivateDefaultBearerContextRequest mmeUe ue sess) (Kept K u) :=
  ensures_bind fun r hr =>
    h.sendERabSetupRequest hK (fun hu => hK.esmBuildActivateDefault (hue hu) _ r hr) _ _ _

theorem Kept.activateDedicated (hK : S11Ue.Stable K) (h : Kept K u s) (hue : u = mmeUe → K ue)
    (sess : S11Sess) (bearer : S11Bearer) :
    Ensures (s.nasSendActivateDedicatedBearerContextRequest mmeUe ue sess bearer) (Kept K u) := by
  refine ensures_assertSome fun _ _ => ensures_bind fun _ _ => ensures_bind fun r hr => ?_
  exact h.sendERabSetupRequest hK (fun hu => hK.nasSecurityEncode (hue hu) _ r hr) _ _ _

theorem Kept.modifyBearer (hK : S11Ue.Stable K) (h : Kept K u s) (hue : u = mmeUe → K ue)
    (sess : S11Sess) (bearer : S11Bearer) (qosPresence tftPresence : Bool) :
    Ensures (s.nasSendModifyBearerContextRequest mmeUe ue sess bearer qosPresence tftPresence)
      (Kept K u) := by
  have hrest (tft : Option Bytes) : Ensures
      (ue.nasSecurityEncode (.modifyEpsBearerContextRequest bearer.ebi sess.pti
          (if qosPresence then some bearer.qos else none) tft) >>= fun r =>
        if qosPresence then do
          let enbUe ← assertSome .nasPath ue.enbUe
          let bearer := { bearer with qos := bearer.qos.raised }
          (s.putMmeUe mmeUe (r.1.putBearer sess bearer)).sendToEnbUe enbUe
            (.eRabModifyRequest (s.ids enbUe) bearer.ebi bearer.qos) (some r.2)
        else (s.putMmeUe mmeUe r.1).nasSendToDownlinkNasTransport ue.enbUe r.2)
      (Kept K u) := by
    refine ensures_bind fun r hr => ?_
    have hcounted (hu : u = mmeUe) : K r.1 := hK.nasSecurityEncode (hue hu) _ r hr
    refine ensures_ite (fun _ => ensures_assertSome fun _ _ => ?_) fun _ => ?_
    · exact (h.put fun hu => hK.putSess _ _ (hcounted hu)).sendToEnbUe _ _ _
    · exact (h.put hcounted).downlinkNasTransport _ _
  unfold nasSendModifyBearerContextRequest
  refine ensures_ite (fun _ => ensures_bind fun tft _ => hrest (some tft)) fun _ => hrest none

theorem Kept.deactivateBearer (hK : S11Ue.Stable K) (h : Kept K u s) (hue : u = mmeUe → K ue)
    (sess : S11Sess) (bearer : S11Bearer) :
    Ensures (s.nasSendDeactivateBearerContextRequest mmeUe ue sess bearer) (Kept K u) := by
  refine ensures_bind fun r hr => ensures_assertSome fun _ _ => ?_
  exact (h.put fun hu => hK.nasSecurityEncode (hue hu) _ r hr).sendToEnbUe _ _ _

/-! ## Sessions -/

/-- What is asked of a UE that is given a session -/
def Accepting (K : S11Ue → Prop) (ue : S11Ue) : Prop :=
  K ue ∧ ∀ csmap, K { ue with csmap := csmap } ∧ ∀ kenb,
    K (S11Ue.keep { ue with toMmeUe := { ue.toMmeUe with t3450 := .clear }, csmap := csmap } kenb)

theorem Kept.createSessionAccept (hK : S11Ue.Stable K) (h : Kept K u s)
    (hue : u = mmeUe → Accepting K ue) (sess : S11Sess) :
    Ensures (s.createSessionAccept mmeUe ue sess) (Kept K u) := by
  unfold S11Mme.createSessionAccept
  split
  · simp only []
    split
    · exact ensures_assert fun _ => ensures_ok (h.put fun hu => ((hue hu).2 _).1)
    · exact h.nasSendAttachAccept hK fun hu => ((hue hu).2 _).2
  · exact h.activateDefault hK (fun hu => (hue hu).1) sess
  · exact ensures_error _

/-- A response that lacks nothing is for a UE with a session. -/
theorem Kept.createSessionResponse (hK : S11Ue.Stable K) (h : Kept K u s)
    (hcreated : u = mmeUe → (s.mmeUes.mem mmeUe).sessList ≠ [] → ∀ sess pdn teid paa,
      Accepting K (createdUe (s.mmeUes.mem mmeUe) sess pdn teid paa))
    (senderFTeid : Option GtpFTeid) (pdnAddressAllocation pco : Option Bytes)
    (bearerContextsCreated : Option GtpBearerContext) :
    Ensures (s.handleCreateSessionResponse mmeUe senderFTeid pdnAddressAllocation pco
      bearerContextsCreated) (Kept K u) := by
  unfold handleCreateSessionResponse
  split
  · rename_i sgwS11Teid paa context
    split
    · refine ensures_assertSome fun found hfound => ensures_assertSome fun pdnId _ =>
        ensures_bind fun pdn hpdn => ensures_bind fun sgwS1u _ => ?_
      have hne : (s.mmeUes.mem mmeUe).sessList ≠ [] := by
        obtain ⟨sess, hsess, -⟩ := List.exists_of_findSome?_eq_some hfound
        exact List.ne_nil_of_mem hsess
      unfold S11Pdn.storePaa at hpdn
      split at hpdn
      · cases hpdn
        exact h.createSessionAccept hK (fun hu => hcreated hu hne _ pdnId sgwS11Teid.teid paa) _
      · cases hpdn
    · exact ensures_ok h
  · exact ensures_ok h

/-- The session is removed at the end, unless the UE is asked to give it up. -/
theorem Kept.deleteSessionResponse (hK : S11Ue.Stable K) (h : Kept K u s)
    (hclear : u = mmeUe → K { s.mmeUes.mem mmeUe with
      toMmeUe := (s.mmeUes.mem mmeUe).toMmeUe.clearSecurityContext })
    (sess : Option (MmeUeId × MmeSessId)) (cause : Bool) :
    Ensures (s.handleDeleteSessionResponse mmeUe sess cause) fun s' =>
      (∃ owner id s₁, sess = some (owner, id) ∧ Kept K u s₁ ∧
        s' = s₁.cleanupSession mmeUe owner id) ∨
      (Kept K u s' ∧ cause = true ∧ s.Disconnects mmeUe sess) := by
  unfold handleDeleteSessionResponse
  refine ensures_assertSome fun target htarget => ?_
  obtain ⟨owner, id⟩ := target
  simp only []
  have hcleanup (s₁ : S11Mme) (hs₁ : Kept K u s₁) :
      Ensures (.ok (s₁.cleanupSession mmeUe owner id) : MmeM S11Mme) fun s' =>
        (∃ owner id s₁, sess = some (owner, id) ∧ Kept K u s₁ ∧
          s' = s₁.cleanupSession mmeUe owner id) ∨
        (Kept K u s' ∧ cause = true ∧ s.Disconnects mmeUe sess) :=
    ensures_ok (.inl ⟨owner, id, s₁, htarget, hs₁, rfl⟩)
  have hrelease : Ensures (s.releaseLastSession mmeUe >>= fun s₁ =>
      (.ok (s₁.cleanupSession mmeUe owner id) : MmeM S11Mme)) fun s' =>
        (∃ owner id s₁, sess = some (owner, id) ∧ Kept K u s₁ ∧
          s' = s₁.cleanupSession mmeUe owner id) ∨
        (Kept K u s' ∧ cause = true ∧ s.Disconnects mmeUe sess) :=
    (h.releaseLastSession mmeUe).bind hcleanup
  split
  · exact ensures_error _
  · rename_i sess' hfound
    refine ensures_ite (fun _ => hcleanup s h) fun hcause => ?_
    cases hsm : (s.mmeUes.mem mmeUe).sm with
    | authentication =>
      exact ensures_ite (fun _ => hcleanup (S11Mme.send _ _) (h.put hclear)) fun _ => hcleanup s h
    | deRegistered =>
      exact ensures_ite (fun _ => (h.nasSendDetachAccept hK mmeUe).bind hcleanup) fun _ =>
        hcleanup s h
    | registered =>
      refine ensures_assertSome fun bearer hbearer => ?_
      cases hbearerSm : bearer.sm with
      | pdnWillDisconnect =>
        refine (h.deactivateBearer hK h.at sess' bearer).bind fun s₁ hs₁ => ensures_ok (.inr ⟨?_,
          by simpa using hcause, hsm, owner, id, sess', bearer, htarget, hfound, hbearer,
          hbearerSm⟩)
        exact hs₁.put fun hu => hK.putSess _ _ (hs₁.at hu)
      | active => exact hrelease
      | inactive => exact hrelease
      | _ => exact ensures_error _
    | initialContextSetup => exact hrelease
    | exception => exact hrelease
    | securityMode => exact ensures_error _

/-! ## Bearers and tunnels -/

theorem Kept.createBearerRequest [OgsConv] [Ogslib] (hK : S11Ue.Stable K) (h : Kept K u s)
    (mmeUe : MmeUeId) (xact : Nat) (slot : Option S11Bearer) (linkedEpsBearerId : Option UInt8)
    (bearerContexts : Option GtpBearerContext) :
    Ensures (s.handleCreateBearerRequest mmeUe xact slot linkedEpsBearerId bearerContexts)
      (Kept K u) := by
  unfold handleCreateBearerRequest
  split
  · split
    · refine ensures_assertSome fun found _ => ensures_bind fun added hadded =>
        ensures_bind fun _ _ => ensures_bind fun _ _ => ensures_assertSome fun _ _ => ?_
      have hue (hu : u = mmeUe) : K added.1 := hK.bearerAdd (h.at hu) _ _ added hadded
      refine ensures_ite (fun _ => ?_) fun _ => ?_
      · exact h.activateDedicated hK (fun hu => hK.putSess _ _ (hue hu)) _ _
      · exact ensures_ok (h.put fun hu => hK.putSess _ _ (hue hu))
    · exact ensures_ok h
  · exact ensures_ok h

theorem Kept.updateBearerRequest [OgsConv] (hK : S11Ue.Stable K) (h : Kept K u s) (mmeUe : MmeUeId)
    (xact : Nat) (bearerContexts : Option GtpBearerContext) :
    Ensures (s.handleUpdateBearerRequest mmeUe xact bearerContexts) (Kept K u) := by
  unfold handleUpdateBearerRequest
  split
  · split
    · refine ensures_assertSome fun found _ => ensures_assert fun _ => ensures_bind fun _ _ => ?_
      refine ensures_ite (fun _ => ?_) fun _ => ?_
      · exact h.modifyBearer hK (fun hu => hK.putSess _ _ (h.at hu)) _ _ _ _
      · exact ensures_ok (h.put fun hu => hK.putSess _ _ (h.at hu))
    · exact ensures_ok h
  · exact ensures_ok h

theorem Kept.deleteBearerRequest (hK : S11Ue.Stable K) (h : Kept K u s) (mmeUe : MmeUeId)
    (xact : Nat) (linkedEpsBearerId epsBearerIds : Option UInt8) :
    Ensures (s.handleDeleteBearerRequest mmeUe xact linkedEpsBearerId epsBearerIds) (Kept K u) := by
  unfold handleDeleteBearerRequest
  split
  · refine ensures_assertSome fun found _ => ensures_assert fun _ => ?_
    exact h.deactivateBearer hK (fun hu => hK.putSess _ _ (h.at hu)) _ _
  · exact ensures_ok h

omit [OgsCrypt] in
theorem Kept.modifyBearerResponse (hK : S11Ue.Stable K) (h : Kept K u s) (mmeUe : MmeUeId) :
    Ensures (s.handleModifyBearerResponse mmeUe) (Kept K u) := by
  have hcomplete {s' : S11Mme} (hs' : Kept K u s') (last : Bool) :
      Ensures (if last then s'.completeHandover mmeUe else .ok s') (Kept K u) := by
    refine ensures_ite (fun _ => ?_) fun _ => ensures_ok hs'
    refine ensures_assertSome fun _ _ => ensures_bind fun _ _ => ensures_assertSome fun _ _ => ?_
    exact hs'.releaseCommand _ _ _ _
  have hchecked : Kept K u (s.putMmeUe mmeUe { s.mmeUes.mem mmeUe with
      pathSwitchCounter := (s.mmeUes.mem mmeUe).pathSwitchCounter.check.1
      handoverNotifyCounter := (s.mmeUes.mem mmeUe).handoverNotifyCounter.check.1 }) :=
    h.put fun hu => hK.counters _ _ _ (h.at hu)
  unfold handleModifyBearerResponse
  refine ensures_ite (fun _ => ?_) fun _ => hcomplete hchecked _
  exact (hchecked.pathSwitchAck mmeUe).bind fun s' hs' => hcomplete hs' _

omit [OgsCrypt] in
theorem Kept.releaseAccessBearersResponse (hK : S11Ue.Stable K) (h : Kept K u s)
    (mmeUe : MmeUeId) (cause : Bool) :
    Ensures (s.handleReleaseAccessBearersResponse mmeUe cause) (Kept K u) := by
  have hcleared : Kept K u (s.putMmeUe mmeUe (s.mmeUes.mem mmeUe).clearBearerContext) :=
    h.put fun hu => hK.updateBearers _ _ (h.at hu)
  unfold handleReleaseAccessBearersResponse
  refine ensures_ite (fun _ => ensures_ok h) fun _ => ?_
  simp only []
  split
  · exact hcleared.releaseCommand _ _ _ _
  · exact ensures_ok hcleared

omit [OgsCrypt] in
theorem Kept.indirectTunnelResponse (hK : S11Ue.Stable K) (h : Kept K u s) (mmeUe : MmeUeId)
    (cause : Bool)
    (bearerContexts : Vector (Option GtpBearerContext) gtpMaxNumOfIndirectTunnel) :
    Ensures (s.handleCreateIndirectDataForwardingTunnelResponse mmeUe cause bearerContexts)
      (Kept K u) := by
  unfold handleCreateIndirectDataForwardingTunnelResponse
  refine ensures_assertSome fun sourceUe _ => ensures_ite (fun _ => ensures_ok h) fun _ => ?_
  refine (ensures_storeTunnels hK h.at _).bind fun r hr => ?_
  refine ensures_ite (fun _ => ?_) fun _ => ensures_ok (h.put hr)
  exact ensures_bind fun _ _ => ensures_assertSome fun _ _ => ensures_bind fun _ _ =>
    (h.put hr).sendToEnbUe _ _ _

/-- Of a message that neither creates nor deletes a session, nothing is asked. -/
theorem Kept.s11Handle [OgsConv] [Ogslib] (hK : S11Ue.Stable K) (h : Kept K u s) (mmeUe : MmeUeId)
    (xact : Nat) {message : MmeS11Message}
    (hcreate : ∀ sender paa pco context,
      message ≠ .createSessionResponse sender paa pco context)
    (hdelete : ∀ sess cause, message ≠ .deleteSessionResponse sess cause) :
    Ensures (s.s11Handle mmeUe xact message) (Kept K u) := by
  cases message with
  | createSessionResponse => exact absurd rfl (hcreate _ _ _ _)
  | modifyBearerResponse => exact h.modifyBearerResponse hK _
  | deleteSessionResponse => exact absurd rfl (hdelete _ _)
  | createBearerRequest => exact h.createBearerRequest hK _ _ _ _ _
  | updateBearerRequest => exact h.updateBearerRequest hK _ _ _
  | deleteBearerRequest => exact h.deleteBearerRequest hK _ _ _ _
  | releaseAccessBearersResponse => exact h.releaseAccessBearersResponse hK _ _
  | downlinkDataNotification => exact ensures_ok h
  | createIndirectDataForwardingTunnelResponse => exact h.indirectTunnelResponse hK _ _ _
  | deleteIndirectDataForwardingTunnelResponse cause =>
    refine ensures_ok ?_
    unfold handleDeleteIndirectDataForwardingTunnelResponse
    split_ifs
    · exact h.put fun hu => hK.updateBearers _ _ (h.at hu)
    · exact h

end
end S11Mme
end NextEpc

import NextEpc.Lib.Footprint
import NextEpc.Mme.S1apHandler

/-!
# Isolation between eNBs

A message of an eNB changes the S1 connections of that eNB and their UEs. Other connections and
UEs are changed only where a procedure moves a UE between eNBs.
-/

namespace NextEpc

open Fallible

namespace S1Mme

/-! ## What a step writes to -/

/-- The states are the same outside of some connections and UEs. -/
structure Within (E : Set EnbUeId) (U : Set MmeUeId) (s t : S1Mme) : Prop where
  enbUes : Pool.EqOff E s.enbUes t.enbUes
  mmeUes : Pool.EqOff U s.mmeUes t.mmeUes

section
variable {E : Set EnbUeId} {U : Set MmeUeId} {s t : S1Mme} {enbUe : EnbUeId} {mmeUe : MmeUeId}

theorem Within.refl (s : S1Mme) : Within E U s s := ⟨.refl E s.enbUes, .refl U s.mmeUes⟩

theorem Within.of_eq (henbUes : t.enbUes = s.enbUes) (hmmeUes : t.mmeUes = s.mmeUes) :
    Within E U s t := by
  constructor
  · rw [henbUes]
    exact .refl E _
  · rw [hmmeUes]
    exact .refl U _

theorem Within.send (h : Within E U s t) (sent : S1Sent) : Within E U s (t.send sent) :=
  ⟨h.enbUes, h.mmeUes⟩

theorem Within.push (h : Within E U s t) (taken : Bool) (event : S1NasEvent) :
    Within E U s (t.push taken event) := by
  rw [S1Mme.push]
  split
  · exact ⟨h.enbUes, h.mmeUes⟩
  · exact h

theorem Within.modifyEnbUe (h : Within E U s t) (hE : enbUe ∈ E) (f : S1EnbUe → S1EnbUe) :
    Within E U s (t.modifyEnbUe enbUe f) :=
  ⟨h.enbUes.trans (Pool.eqOff_modify hE _ f), h.mmeUes⟩

theorem Within.modifyMmeUe (h : Within E U s t) (hU : mmeUe ∈ U) (f : S1MmeUe → S1MmeUe) :
    Within E U s (t.modifyMmeUe mmeUe f) :=
  ⟨h.enbUes, h.mmeUes.trans (Pool.eqOff_modify hU _ f)⟩

theorem Within.associate (h : Within E U s t) (hE : enbUe ∈ E) (hU : mmeUe ∈ U) :
    Within E U s (t.mmeUeAssociateEnbUe mmeUe enbUe) := by
  apply Within.modifyEnbUe _ hE
  exact h.modifyMmeUe hU _

theorem Within.enbUeAdd [Ogslib] (h : Within E U s t) (hE : enbUe ∈ E) (enb : MmeEnbId) :
    Within E U s (t.enbUeAdd enbUe enb) := by
  rw [S1Mme.enbUeAdd]
  refine ⟨h.enbUes.trans ?_, h.mmeUes⟩
  dsimp only
  exact (Pool.eqOff_alloc hE _).trans (Pool.eqOff_modify hE _ _)

theorem Within.enbUeRemove (h : Within E U s t) (hE : enbUe ∈ E) :
    Within E U s (t.enbUeRemove enbUe) := by
  refine ⟨?_, h.mmeUes⟩
  apply h.enbUes.trans
  exact (Pool.eqOff_modify hE _ _).trans (Pool.eqOff_free hE _)

theorem Within.enbUeSwitchToEnb (h : Within E U s t) (hE : enbUe ∈ E) (enb : MmeEnbId) :
    Within E U s (t.enbUeSwitchToEnb enbUe enb) := by
  rw [S1Mme.enbUeSwitchToEnb]
  refine ⟨h.enbUes.trans ?_, h.mmeUes⟩
  dsimp only
  exact Pool.eqOff_modify hE _ _

theorem Within.mmeUeRemove (h : Within E U s t) (hU : mmeUe ∈ U) :
    Within E U s (t.mmeUeRemove mmeUe) := by
  refine ⟨h.enbUes, ?_⟩
  apply h.mmeUes.trans
  exact (Pool.eqOff_modify hU _ _).trans (Pool.eqOff_free hU _)

theorem Within.clearHandover (h : Within E U s t) {sourceUe targetUe : EnbUeId}
    (hsource : sourceUe ∈ E) (htarget : targetUe ∈ E) :
    Ensures (t.clearHandover sourceUe targetUe) (Within E U s) := by
  apply ensures_assert
  intro _
  apply ensures_assert
  intro _
  apply ensures_ok
  exact (h.modifyEnbUe hsource _).modifyEnbUe htarget _

theorem Within.releaseCommand (h : Within E U s t) (hE : enbUe ∈ E) (cause : S1apCause)
    (action : UeCtxRelAction) (delay : Bool) :
    Ensures (t.s1apSendUeContextReleaseCommand enbUe cause action delay) (Within E U s) := by
  rw [s1apSendUeContextReleaseCommand]
  split
  · apply ensures_assert
    intro _
    apply ensures_ok
    exact (h.modifyEnbUe hE _).send _
  · split
    · apply ensures_ok
      exact h.send _
    · apply ensures_assert
      intro _
      apply ensures_ok
      exact (h.modifyEnbUe hE _).send _

/-- `CLEAR_ENB_UE_TIMER` and the command -/
theorem Within.clearedReleaseCommand (h : Within E U s t) (hE : enbUe ∈ E) (cause : S1apCause)
    (action : UeCtxRelAction) (delay : Bool) :
    Ensures ((t.clearEnbUeTimer enbUe).s1apSendUeContextReleaseCommand enbUe cause action delay)
      (Within E U s) :=
  (h.modifyEnbUe hE _).releaseCommand hE cause action delay

theorem Within.deleteSession (h : Within E U s t) (mmeUe : MmeUeId) (sess : S1Sess) :
    Within E U s (t.mmeGtpSendDeleteSessionRequest mmeUe sess) := by
  unfold mmeGtpSendDeleteSessionRequest
  split
  · split
    · exact h
    · exact h.send _
  · exact h

theorem Within.deleteAllSessions (h : Within E U s t) (hU : mmeUe ∈ U) :
    Within E U s (t.mmeGtpSendDeleteAllSessions mmeUe) := by
  rw [mmeGtpSendDeleteAllSessions]
  split
  · exact h
  · apply List.foldlRecOn
    · exact h.modifyMmeUe hU _
    · exact fun r hr sess _ => hr.deleteSession mmeUe sess

theorem Within.deleteSessionOrRelease (h : Within E U s t) (hE : enbUe ∈ E) (hU : mmeUe ∈ U) :
    Ensures (t.mmeSendDeleteSessionOrUeContextRelease mmeUe enbUe) (Within E U s) := by
  rw [mmeSendDeleteSessionOrUeContextRelease]
  apply ensures_ite
  · exact fun _ => ensures_ok (h.deleteAllSessions hU)
  · exact fun _ => h.clearedReleaseCommand hE _ _ _

theorem Within.releaseAccessBearerOrRelease (h : Within E U s t) (hE : enbUe ∈ E) :
    Ensures (t.mmeSendReleaseAccessBearerOrUeContextRelease mmeUe enbUe) (Within E U s) := by
  rw [mmeSendReleaseAccessBearerOrUeContextRelease]
  apply ensures_ite
  · exact fun _ => ensures_ok (h.send _)
  · exact fun _ => h.clearedReleaseCommand hE _ _ _

/-! ### E-RABs -/

theorem Within.setEnbS1u (h : Within E U s t) (hU : mmeUe ∈ U) (erab : S1apErab) :
    Ensures (t.setEnbS1u mmeUe erab) (Within E U s) := by
  apply ensures_bind
  intro _ _
  apply ensures_bind
  intro ip _
  apply ensures_ok
  exact h.modifyMmeUe hU _

theorem Within.initialContextErab (h : Within E U s t) (hU : mmeUe ∈ U) (erab : S1apErab) :
    Ensures (t.initialContextErab mmeUe erab) (Within E U s) := by
  apply ensures_bind
  intro _ _
  refine (h.setEnbS1u hU erab).bind ?_
  intro r hr
  apply ensures_ite
  · exact fun _ => ensures_ok (hr.send _)
  · exact fun _ => ensures_ok hr

theorem Within.setupErab (h : Within E U s t) (hU : mmeUe ∈ U) (erab : S1apErab) :
    Ensures (t.setupErab mmeUe erab) (Within E U s) := by
  apply ensures_bind
  intro _ _
  refine (h.setEnbS1u hU erab).bind ?_
  intro r hr
  apply ensures_ite
  · intro _
    apply ensures_assertSome
    intro linkedBearer _
    apply ensures_ite
    · exact fun _ => ensures_ok (hr.send _)
    · exact fun _ => ensures_ok (hr.send _)
  · exact fun _ => ensures_ok hr

theorem Within.pathSwitchErab (h : Within E U s t) (hU : mmeUe ∈ U) (erab : S1apErab) :
    Ensures (t.pathSwitchErab mmeUe erab) (Within E U s) := by
  apply ensures_bind
  intro _ _
  refine (h.setEnbS1u hU erab).bind ?_
  intro r hr
  apply ensures_ok
  exact (hr.modifyMmeUe hU _).send _

theorem Within.setForwarding (h : Within E U s t) (hU : mmeUe ∈ U) (ebi : UInt8)
    (endPoint : Option (Bytes × Octets4)) (write : GtpEndPoint → S1Bearer → S1Bearer) :
    Ensures (t.setForwarding mmeUe ebi endPoint write) (Within E U s) := by
  unfold S1Mme.setForwarding
  split
  · apply ensures_bind
    intro ip _
    apply ensures_ok
    exact h.modifyMmeUe hU _
  · exact ensures_ok h

theorem Within.admitErab (h : Within E U s t) (hU : mmeUe ∈ U) (erab : S1apErabAdmitted) :
    Ensures (t.admitErab mmeUe erab) (Within E U s) := by
  apply ensures_bind
  intro _ _
  apply ensures_bind
  intro ip _
  refine ((h.modifyMmeUe hU _).setForwarding hU _ _ _).bind ?_
  intro r hr
  exact hr.setForwarding hU _ _ _

end

/-! ## What a message may change -/

/-- The connections of an eNB -/
def ownEnbUes (s : S1Mme) (enb : MmeEnbId) : Set EnbUeId := {x | x ∈ s.enbUeList enb}

/-- The UEs that connections are associated with -/
def mmeUesOf (s : S1Mme) (E : Set EnbUeId) : Set MmeUeId :=
  {u | ∃ x ∈ E, (s.enbUes.mem x).mmeUe = some u}

/-- The connections that a handover ties to connections of an eNB -/
def handoverEnbUes (s : S1Mme) (enb : MmeEnbId) : Set EnbUeId :=
  {y | ∃ x ∈ s.ownEnbUes enb,
    (s.enbUes.mem x).sourceUe = some y ∨ (s.enbUes.mem x).targetUe = some y}

/-- The connection that a Path Switch Request moves -/
def movedEnbUe (s : S1Mme) (ies : S1apIes) : Set EnbUeId :=
  {x | ies.sourceMmeUeS1apId.bind s.enbUeFindByMmeUeS1apId = some x}

/-- The UE of an S-TMSI -/
def returnedMmeUe (s : S1Mme) (ies : S1apIes) : Set MmeUeId :=
  {u | ies.sTmsi.bind s.gutiUeHash = some u}

/-- The connections of other eNBs that a procedure changes -/
def sharedEnbUes (s : S1Mme) (enb : MmeEnbId) (ies : S1apIes) : S1apProcedure → Set EnbUeId
  | .pathSwitchRequest => s.movedEnbUe ies
  | .initialUeMessage => {x | ∃ u ∈ s.returnedMmeUe ies, (s.mmeUes.mem u).enbUe = some x}
  | .handoverCancel | .ueContextReleaseComplete => s.handoverEnbUes enb
  | _ => ∅

/-- The UEs of other eNBs that a procedure changes -/
def sharedMmeUes (s : S1Mme) (enb : MmeEnbId) (ies : S1apIes) : S1apProcedure → Set MmeUeId
  | .pathSwitchRequest => s.mmeUesOf (s.movedEnbUe ies)
  | .initialUeMessage => s.returnedMmeUe ies
  | .handoverRequestAck | .handoverNotification => s.mmeUesOf (s.handoverEnbUes enb)
  | _ => ∅

/-- The connections that are in use and the UEs, but for some, are what they were. -/
def Isolates (s : S1Mme) (E : Set EnbUeId) (U : Set MmeUeId) (t : S1Mme) : Prop :=
  (∀ x, s.enbUes.live x = true → x ∉ E →
    t.enbUes.live x = true ∧ t.enbUes.mem x = s.enbUes.mem x) ∧
  ∀ u, s.mmeUes.live u = true → u ∉ U →
    t.mmeUes.live u = true ∧ t.mmeUes.mem u = s.mmeUes.mem u

/-- An identity that the MME gave out is of a connection of the eNB, or of none. -/
def NamesOwn (s : S1Mme) (enb : MmeEnbId) (mmeUeS1apId : Option UInt32) : Prop :=
  ∀ x, mmeUeS1apId.bind s.enbUeFindByMmeUeS1apId = some x → x ∈ s.ownEnbUes enb

/-- The identities in a message are of connections of the eNB; a UE that is handed over is on the
connection that asks for it; and a connection that is added is to have no UE yet. -/
def StaysWithin (s : S1Mme) (env : S1apEnv) (enb : MmeEnbId) (ies : S1apIes) :
    S1apProcedure → Prop
  | .ueContextReleaseRequest | .ueContextReleaseComplete | .handoverRequestAck
  | .handoverFailure => s.NamesOwn enb ies.mmeUeS1apId
  | .s1Reset => ∀ list, ies.resetType = some (.partOfS1Interface list) →
      ∀ item ∈ list, s.NamesOwn enb item.mMeUeS1apId
  | .handoverRequired => ∀ x u, ies.enbUeS1apId.bind (s.enbUeFindByEnbUeS1apId enb) = some x →
      (s.enbUes.mem x).mmeUe = some u → ∀ y, (s.mmeUes.mem u).enbUe = some y → y = x
  | .initialUeMessage => ∀ x, s.enbUePoolAlloc env.slot = some x → (s.enbUes.mem x).mmeUe = none
  | _ => True

/-! ## One message -/

/-- The sets hold the connections of the eNB and their UEs. -/
structure Covers (s : S1Mme) (enb : MmeEnbId) (E : Set EnbUeId) (U : Set MmeUeId) : Prop where
  enbUes : s.ownEnbUes enb ⊆ E
  mmeUes : s.mmeUesOf (s.ownEnbUes enb) ⊆ U

section
variable {s : S1Mme} {enb : MmeEnbId} {ies : S1apIes} {x : EnbUeId} {u : MmeUeId}
  {E : Set EnbUeId} {U : Set MmeUeId} {β : Type} {R : β → Prop}

theorem mem_own_of_find {enbUeS1apId : UInt32}
    (h : s.enbUeFindByEnbUeS1apId enb enbUeS1apId = some x) : x ∈ s.ownEnbUes enb :=
  List.mem_of_find?_eq_some h

theorem Covers.mem_mmeUes (h : s.Covers enb E U) (hx : x ∈ s.ownEnbUes enb)
    (hu : (s.enbUes.mem x).mmeUe = some u) : u ∈ U := h.mmeUes ⟨x, hx, hu⟩

theorem ensures_assertEnbUe {id : Option UInt32} {f : EnbUeId → MmeM β}
    (hf : ∀ x, id.bind (s.enbUeFindByEnbUeS1apId enb) = some x → x ∈ s.ownEnbUes enb →
      Ensures (f x) R) : Ensures (s.assertEnbUe enb id >>= f) R := by
  apply ensures_bind
  intro x hx
  obtain ⟨id', hid, hx⟩ := bind_eq_ok.mp hx
  rw [assertSome_eq_ok] at hid hx
  apply hf x
  · rw [hid]
    exact hx
  · exact mem_own_of_find hx

theorem ensures_assertBoth {f : EnbUeId → MmeM β}
    (hf : ∀ x, ies.enbUeS1apId.bind (s.enbUeFindByEnbUeS1apId enb) = some x →
      x ∈ s.ownEnbUes enb → Ensures (f x) R) : Ensures (s.assertBoth enb ies >>= f) R := by
  rw [assertBoth, bind_assoc]
  apply ensures_assertSome
  intro mmeUeS1apId _
  rw [bind_assoc]
  apply ensures_assertEnbUe
  intro x hfind hx
  rw [bind_assoc]
  apply ensures_assert
  exact fun _ => hf x hfind hx

theorem ensures_assertMmeUe {f : MmeUeId → MmeM β}
    (hf : ∀ u, (s.enbUes.mem x).mmeUe = some u → Ensures (f u) R) :
    Ensures (s.assertMmeUe x >>= f) R := ensures_assertSome hf

/-! ### The eNB -/

theorem within_s1SetupRequest (env : S1apEnv) :
    Ensures (s.s1apHandleS1SetupRequest env enb ies) (Within E U s) := by
  apply ensures_assertSome
  intro globalEnbId _
  apply ensures_bind
  intro enbId _
  apply ensures_assertSome
  intro supportedTas _
  apply ensures_bind
  intro tais _
  apply ensures_ite
  · exact fun _ => ensures_ok (.of_eq rfl rfl)
  · intro _
    apply ensures_ite
    · exact fun _ => ensures_ok (.of_eq rfl rfl)
    · exact fun _ => ensures_ok (.of_eq rfl rfl)

theorem within_enbConfigurationTransfer :
    Ensures (s.s1apHandleEnbConfigurationTransfer ies) (Within E U s) := by
  unfold s1apHandleEnbConfigurationTransfer
  split
  · apply ensures_bind
    intro _ _
    apply ensures_bind
    intro targetEnbId _
    split
    · exact ensures_ok ((Within.refl s).send _)
    · exact ensures_ok (.refl s)
  · exact ensures_ok (.refl s)

/-! ### Contexts -/

theorem within_ueCapabilityInfoIndication (h : s.Covers enb E U) :
    Ensures (s.s1apHandleUeCapabilityInfoIndication enb ies) (Within E U s) := by
  apply ensures_assertEnbUe
  intro x _ hx
  split
  · rename_i u hu
    apply ensures_assertSome
    intro capability _
    apply ensures_ok
    exact (Within.refl s).modifyMmeUe (h.mem_mmeUes hx hu) _
  · exact ensures_ok (.refl s)

theorem within_initialContextSetupResponse (h : s.Covers enb E U) :
    Ensures (s.s1apHandleInitialContextSetupResponse enb ies) (Within E U s) := by
  apply ensures_assertEnbUe
  intro x _ hx
  apply ensures_assertMmeUe
  intro u hu
  have hU := h.mem_mmeUes hx hu
  apply ensures_assertSome
  intro list _
  have hloop : Ensures (list.foldlM (fun r erab => r.initialContextErab u erab) s)
      (Within E U s) :=
    ensures_foldlM (fun r hr erab _ => hr.initialContextErab hU erab) (.refl s)
  refine hloop.bind ?_
  intro r hr
  apply ensures_ok
  apply Within.modifyMmeUe _ hU
  split
  · exact hr.send _
  · exact hr

theorem within_initialContextSetupFailure (h : s.Covers enb E U) :
    Ensures (s.s1apHandleInitialContextSetupFailure enb ies) (Within E U s) := by
  apply ensures_assertSome
  intro id _
  apply ensures_assertSome
  intro cause _
  split
  · exact ensures_error _
  · rename_i x hfind
    have hx := mem_own_of_find hfind
    apply ensures_assertMmeUe
    intro u hu
    have hU := h.mem_mmeUes hx hu
    have hrelease := ensures_ite (p := (s.mmeUes.mem u).sm = .registered)
      (fun _ => ensures_ok (.refl s))
      (fun _ => (Within.refl s).deleteSessionOrRelease (h.enbUes hx) hU)
    refine hrelease.bind ?_
    intro r hr
    apply ensures_ok
    exact hr.modifyMmeUe hU _

theorem within_ueContextModificationResponse (h : s.Covers enb E U) :
    Ensures (s.s1apHandleUeContextModificationResponse enb ies) (Within E U s) := by
  apply ensures_assertEnbUe
  intro x _ hx
  apply ensures_assertMmeUe
  intro u hu
  apply ensures_ok
  exact (Within.refl s).modifyMmeUe (h.mem_mmeUes hx hu) _

theorem within_ueContextModificationFailure (h : s.Covers enb E U) :
    Ensures (s.s1apHandleUeContextModificationFailure enb ies) (Within E U s) := by
  apply ensures_assertSome
  intro id _
  apply ensures_assertSome
  intro cause _
  split
  · exact ensures_error _
  · rename_i x hfind
    apply ensures_assertMmeUe
    intro u hu
    apply ensures_ok
    exact (Within.refl s).modifyMmeUe (h.mem_mmeUes (mem_own_of_find hfind) hu) _

theorem within_eRabSetupResponse (h : s.Covers enb E U) :
    Ensures (s.s1apHandleERabSetupResponse enb ies) (Within E U s) := by
  apply ensures_assertEnbUe
  intro x _ hx
  apply ensures_assertMmeUe
  intro u hu
  apply ensures_assertSome
  intro list _
  exact ensures_foldlM (fun r hr erab _ => hr.setupErab (h.mem_mmeUes hx hu) erab) (.refl s)

/-! ### Release -/

theorem within_ueContextReleaseRequest (h : s.Covers enb E U)
    (hown : s.NamesOwn enb ies.mmeUeS1apId) :
    Ensures (s.s1apHandleUeContextReleaseRequest enb ies) (Within E U s) := by
  apply ensures_assertSome
  intro id hid
  split
  · exact ensures_ok ((Within.refl s).send _)
  · rename_i x hfind
    have hx : x ∈ s.ownEnbUes enb := by
      apply hown
      rw [hid]
      exact hfind
    have hE := h.enbUes hx
    apply ensures_assertSome
    intro cause _
    split
    · rename_i u hu
      apply ensures_ite
      · exact fun _ => (Within.refl s).releaseAccessBearerOrRelease hE
      · exact fun _ => (Within.refl s).deleteSessionOrRelease hE (h.mem_mmeUes hx hu)
    · exact (Within.refl s).clearedReleaseCommand hE _ _ _

theorem ensures_useMmeUe {t : S1Mme} {o : Option MmeUeId} {f : MmeUeId → MmeM β}
    (hf : ∀ u, o = some u → Ensures (f u) R) : Ensures (t.useMmeUe o >>= f) R := by
  apply ensures_bind
  intro u hu
  obtain ⟨u', hu', hu⟩ := bind_eq_ok.mp hu
  rw [assertSome_eq_ok] at hu'
  split at hu
  · cases hu
    exact hf u hu'
  · cases hu

theorem within_deassociateTargetUe (hx : x ∈ s.ownEnbUes enb) (hE : x ∈ E)
    (hshared : s.handoverEnbUes enb ⊆ E) :
    Ensures (s.sourceUeDeassociateTargetUe x) (Within E U s) := by
  unfold sourceUeDeassociateTargetUe
  cases htarget : (s.enbUes.mem x).targetUe with
  | some targetUe => exact (Within.refl s).clearHandover hE (hshared ⟨x, hx, .inr htarget⟩)
  | none =>
    cases hsource : (s.enbUes.mem x).sourceUe with
    | some sourceUe => exact (Within.refl s).clearHandover (hshared ⟨x, hx, .inl hsource⟩) hE
    | none => exact ensures_ok (.refl s)

theorem within_ueContextReleaseComplete (h : s.Covers enb E U)
    (hshared : s.handoverEnbUes enb ⊆ E) (hown : s.NamesOwn enb ies.mmeUeS1apId) :
    Ensures (s.s1apHandleUeContextReleaseComplete enb ies) (Within E U s) := by
  apply ensures_assertSome
  intro id hid
  split
  · exact ensures_ok ((Within.refl s).send _)
  · rename_i x hfind
    have hx : x ∈ s.ownEnbUes enb := by
      apply hown
      rw [hid]
      exact hfind
    have hE := h.enbUes hx
    have hremoved := (Within.refl (U := U) s).enbUeRemove hE
    dsimp only
    split
    · exact ensures_ok hremoved
    · apply ensures_useMmeUe
      intro u hu
      exact ensures_ok (hremoved.modifyMmeUe (h.mem_mmeUes hx hu) _)
    · apply ensures_useMmeUe
      intro u hu
      exact ensures_ok (hremoved.mmeUeRemove (h.mem_mmeUes hx hu))
    · refine Ensures.bind (P := Within E U s) (within_deassociateTargetUe hx hE hshared) ?_
      intro r hr
      apply ensures_useMmeUe
      intro u hu
      apply ensures_ite
      · exact fun _ => ensures_ok ((hr.enbUeRemove hE).send _)
      · exact fun _ => ensures_ok ((hr.enbUeRemove hE).modifyMmeUe (h.mem_mmeUes hx hu) _)
    · exact ensures_error _

/-! ### Reset -/

/-- What a removal leaves of the tables: the connections of each eNB and the identities are among
those there were. -/
structure Shrinks (s t : S1Mme) : Prop where
  enbUeList : ∀ enb, t.enbUeList enb ⊆ s.enbUeList enb
  hash : ∀ id x, t.mmeUeS1apIdHash id = some x → s.mmeUeS1apIdHash id = some x

theorem Shrinks.refl (s : S1Mme) : Shrinks s s := ⟨fun _ => List.Subset.refl _, fun _ _ => id⟩

theorem Shrinks.enbUeRemove {t : S1Mme} (h : Shrinks s t) (y : EnbUeId) :
    Shrinks s (t.enbUeRemove y) := by
  constructor
  · intro e
    apply List.Subset.trans _ (h.enbUeList e)
    by_cases he : e = (t.enbUes.mem y).enb
    · subst he
      simp only [S1Mme.enbUeRemove, Function.update_self]
      exact List.erase_subset
    · simp only [S1Mme.enbUeRemove, Function.update_of_ne he]
      exact List.Subset.refl _
  · intro id z hz
    apply h.hash
    by_cases hid : id = (t.enbUes.mem y).mmeUeS1apId
    · subst hid
      simp only [S1Mme.enbUeRemove, Function.update_self] at hz
      cases hz
    · simpa only [S1Mme.enbUeRemove, Function.update_of_ne hid] using hz

theorem mem_of_resetItem {t : S1Mme} (ht : Shrinks s t) {item : S1apConnectionItem}
    (hown : s.NamesOwn enb item.mMeUeS1apId) (hx : t.s1apHandleS1ResetItem enb item = some x) :
    x ∈ s.ownEnbUes enb := by
  unfold s1apHandleS1ResetItem at hx
  split at hx
  · rename_i id hid
    apply hown
    rw [hid]
    exact ht.hash id x hx
  · obtain ⟨id, -, hx⟩ := Option.bind_eq_some_iff.mp hx
    exact ht.enbUeList enb (mem_own_of_find hx)

theorem within_s1Reset (h : s.Covers enb E U)
    (hown : ∀ list, ies.resetType = some (.partOfS1Interface list) →
      ∀ item ∈ list, s.NamesOwn enb item.mMeUeS1apId) :
    Ensures (s.s1apHandleS1Reset enb ies) (Within E U s) := by
  apply ensures_assertSome
  intro cause _
  apply ensures_assertSome
  intro resetType htype
  apply ensures_ok
  apply Within.send
  split
  · apply List.foldlRecOn
    · exact .refl s
    · exact fun r hr y hy => hr.enbUeRemove (h.enbUes hy)
  · rename_i list
    refine (List.foldlRecOn (motive := fun r => Within E U s r ∧ Shrinks s r) list _
      ⟨.refl s, .refl s⟩ ?_).1
    rintro r ⟨hwithin, hshrinks⟩ item hitem
    split
    · rename_i y hy
      have hmem := mem_of_resetItem hshrinks (hown list htype item hitem) hy
      exact ⟨hwithin.enbUeRemove (h.enbUes hmem), hshrinks.enbUeRemove y⟩
    · exact ⟨hwithin, hshrinks⟩
  · exact .refl s

/-! ### Handover -/

/-- What a write to other fields leaves. -/
theorem apply_modifyEnbUe {γ : Type} (g : S1EnbUe → γ) {t : S1Mme} {y : EnbUeId}
    {f : S1EnbUe → S1EnbUe} (hg : ∀ e, g (f e) = g e) :
    g ((t.modifyEnbUe x f).enbUes.mem y) = g (t.enbUes.mem y) := Pool.apply_mem_modify hg

theorem within_handoverRequestAck (h : s.Covers enb E U)
    (hshared : s.mmeUesOf (s.handoverEnbUes enb) ⊆ U) (hown : s.NamesOwn enb ies.mmeUeS1apId) :
    Ensures (s.s1apHandleHandoverRequestAck ies) (Within E U s) := by
  apply ensures_assertSome
  intro id hid
  apply ensures_assertSome
  intro enbUeS1apId _
  apply ensures_assertSome
  intro list _
  apply ensures_assertSome
  intro container _
  apply ensures_assertSome
  intro targetUe hfind
  have htarget : targetUe ∈ s.ownEnbUes enb := by
    apply hown
    rw [hid]
    exact hfind
  have hset := (Within.refl (U := U) s).modifyEnbUe (h.enbUes htarget)
    fun e => { e with enbUeS1apId := enbUeS1apId }
  apply ensures_assertSome
  intro sourceUe hsource
  apply ensures_assertMmeUe
  intro u hu
  -- the links are those from before the identity was written
  have hU : u ∈ U := by
    apply hshared
    refine ⟨sourceUe, ⟨targetUe, htarget, .inl ?_⟩, ?_⟩
    · rw [apply_modifyEnbUe S1EnbUe.sourceUe] at hsource
      · exact hsource
      · exact fun _ => rfl
    · rw [apply_modifyEnbUe S1EnbUe.mmeUe] at hu
      · exact hu
      · exact fun _ => rfl
  refine Ensures.bind (P := Within E U s)
    (ensures_foldlM (fun r hr erab _ => hr.admitErab hU erab) hset) ?_
  intro r hr
  have hstored := hr.modifyMmeUe hU fun ue => { ue with container := some container }
  apply ensures_ite
  · exact fun _ => ensures_ok (hstored.send _)
  · exact fun _ => ensures_ok (hstored.send _)

theorem within_handoverFailure (h : s.Covers enb E U) (hown : s.NamesOwn enb ies.mmeUeS1apId) :
    Ensures (s.s1apHandleHandoverFailure ies) (Within E U s) := by
  apply ensures_assertSome
  intro id hid
  apply ensures_assertSome
  intro cause _
  apply ensures_assertSome
  intro targetUe hfind
  apply ensures_assertSome
  intro sourceUe _
  apply ((Within.refl s).send _).clearedReleaseCommand
  apply h.enbUes
  apply hown
  rw [hid]
  exact hfind

theorem within_handoverCancel (hshared : s.handoverEnbUes enb ⊆ E) :
    Ensures (s.s1apHandleHandoverCancel enb ies) (Within E U s) := by
  apply ensures_assertSome
  intro cause _
  apply ensures_assertBoth
  intro sourceUe _ hsource
  apply ensures_assertSome
  intro targetUe htarget
  apply ((Within.refl s).send _).clearedReleaseCommand
  exact hshared ⟨sourceUe, hsource, .inr htarget⟩

theorem within_enbStatusTransfer :
    Ensures (s.s1apHandleEnbStatusTransfer enb ies) (Within E U s) := by
  apply ensures_assertSome
  intro container _
  apply ensures_assertBoth
  intro sourceUe _ _
  apply ensures_assertSome
  intro targetUe _
  exact ensures_ok ((Within.refl s).send _)

theorem Within.notifyBearers {t : S1Mme} (h : Within E U s t) (hU : u ∈ U) :
    Within E U s (t.notifyBearers u) := by
  apply List.foldlRecOn
  · exact h.modifyMmeUe hU _
  · exact fun r hr bearer _ => (hr.modifyMmeUe hU _).send _

theorem within_handoverNotification (h : s.Covers enb E U)
    (hshared : s.mmeUesOf (s.handoverEnbUes enb) ⊆ U) :
    Ensures (s.s1apHandleHandoverNotification enb ies) (Within E U s) := by
  apply ensures_assertSome
  intro eutranCgi _
  apply ensures_assertSome
  intro tai _
  apply ensures_bind
  intro location _
  apply ensures_assertBoth
  intro targetUe _ htarget
  apply ensures_assertSome
  intro sourceUe hsource
  apply ensures_assertMmeUe
  intro u hu
  have hE := h.enbUes htarget
  have hU : u ∈ U := hshared ⟨sourceUe, ⟨targetUe, htarget, .inl hsource⟩, hu⟩
  apply ensures_ok
  apply Within.notifyBearers _ hU
  exact (((Within.refl s).associate hE hU).modifyEnbUe hE _).modifyMmeUe hU _

/-! ### Connections that are added -/

theorem Within.associateSTmsi {t : S1Mme} (h : Within E U s t)
    (hE : ∀ u, ies.sTmsi.bind t.gutiUeHash = some u → ∀ y, (t.mmeUes.mem u).enbUe = some y → y ∈ E)
    (hU : ∀ u, ies.sTmsi.bind t.gutiUeHash = some u → u ∈ U) (hx : x ∈ E) :
    Within E U s (t.associateSTmsi x ies.sTmsi) := by
  unfold S1Mme.associateSTmsi
  split
  · rename_i u hu
    apply Within.associate _ hx (hU u hu)
    split
    · rename_i old hold
      exact h.enbUeRemove (hE u hu old hold)
    · exact h
  · exact h

/-- The UE of a new connection is the one that came back, if there is one. -/
theorem mmeUe_associateSTmsi {t : S1Mme} (hfresh : (t.enbUes.mem x).mmeUe = none)
    (hu : ((t.associateSTmsi x ies.sTmsi).enbUes.mem x).mmeUe = some u) :
    ies.sTmsi.bind t.gutiUeHash = some u := by
  unfold S1Mme.associateSTmsi at hu
  split at hu
  · rename_i v hv
    rw [hv]
    simpa [mmeUeAssociateEnbUe, S1Mme.modifyEnbUe] using hu
  · rw [hfresh] at hu
    cases hu

theorem mmeUe_enbUeAdd [Ogslib] {t : S1Mme} {y z : EnbUeId} :
    ((t.enbUeAdd y enb).enbUes.mem z).mmeUe = (t.enbUes.mem z).mmeUe := by
  simp only [enbUeAdd, Pool.mem_modify, Pool.mem_alloc]
  split
  · rename_i hzy
    rw [hzy]
  · rfl

theorem live_of_poolAlloc {t : S1Mme} {slot : Option EnbUeId} {y : EnbUeId}
    (h : t.enbUePoolAlloc slot = some y) : t.enbUes.live y = false := by
  have hlive := (Option.filter_eq_some_iff.mp h).2
  simpa using hlive

theorem within_initialUe [Ogslib] (env : S1apEnv) (h : s.Covers enb E U)
    (hold : {y | ∃ v ∈ s.returnedMmeUe ies, (s.mmeUes.mem v).enbUe = some y} ⊆ E)
    (hnew : {y | s.enbUes.live y = false} ⊆ E) (hreturned : s.returnedMmeUe ies ⊆ U)
    (hfresh : ∀ y, s.enbUePoolAlloc env.slot = some y → (s.enbUes.mem y).mmeUe = none)
    (enbUeS1apId : UInt32) :
    Ensures (s.initialUe env enb enbUeS1apId ies.sTmsi) fun r => Within E U s r.1 ∧ r.2 ∈ E ∧
      ∀ u, (r.1.enbUes.mem r.2).mmeUe = some u → u ∈ U := by
  unfold initialUe
  split
  · rename_i y hfind
    have hy := mem_own_of_find hfind
    apply ensures_ok
    exact ⟨.refl s, h.enbUes hy, fun u hu => h.mem_mmeUes hy hu⟩
  · apply ensures_assertSome
    intro y hy
    have hE : y ∈ E := hnew (live_of_poolAlloc hy)
    let added := (s.enbUeAdd y enb).modifyEnbUe y fun e => { e with enbUeS1apId := enbUeS1apId }
    have hadd : Within E U s added :=
      ((Within.refl s).enbUeAdd hE enb).modifyEnbUe hE _
    have hnone : (added.enbUes.mem y).mmeUe = none := by
      rw [apply_modifyEnbUe S1EnbUe.mmeUe]
      · rw [mmeUe_enbUeAdd, hfresh y hy]
      · exact fun _ => rfl
    apply ensures_ok
    refine ⟨?_, hE, ?_⟩
    · apply hadd.associateSTmsi
      · exact fun u hu z hz => hold ⟨u, hu, hz⟩
      · exact fun u hu => hreturned hu
      · exact hE
    · exact fun u hu => hreturned (mmeUe_associateSTmsi (t := added) hnone hu)

theorem Within.sendHandoverRequest [Ogslib] {t : S1Mme} (h : Within E U s t) {slot : Option EnbUeId}
    (hsource : ∀ y, (t.mmeUes.mem u).enbUe = some y → y ∈ E)
    (hslot : ∀ y, t.enbUePoolAlloc slot = some y → y ∈ E) (targetEnb : MmeEnbId) :
    Ensures (t.s1apSendHandoverRequest slot u targetEnb) (Within E U s) := by
  apply ensures_assertSome
  intro sourceUe hs
  apply ensures_assert
  intro _
  apply ensures_assertSome
  intro targetUe htarget
  have hadd := h.enbUeAdd (hslot targetUe htarget) targetEnb
  have htied : Ensures ((t.enbUeAdd targetUe targetEnb).sourceUeAssociateTargetUe sourceUe targetUe)
      (Within E U s) := by
    apply ensures_assertSome
    intro v _
    apply ensures_ok
    exact (hadd.modifyEnbUe (hslot targetUe htarget) _).modifyEnbUe (hsource sourceUe hs) _
  refine htied.bind ?_
  intro r hr
  exact ensures_ok (hr.send _)

end

section
variable [OgsCrypt] {s : S1Mme} {enb : MmeEnbId} {ies : S1apIes} {x : EnbUeId} {u : MmeUeId}
  {E : Set EnbUeId} {U : Set MmeUeId}

/-! ### NAS messages -/

theorem Within.nasSecurityDecode {t : S1Mme} (h : Within E U s t)
    (hU : ∀ u, (t.enbUes.mem x).mmeUe = some u → u ∈ U) (type : NasSecurityHeaderType)
    (nasbuf : Pkbuf) :
    Ensures (t.nasSecurityDecode x type nasbuf) fun r => Within E U s r.1 := by
  unfold S1Mme.nasSecurityDecode
  split
  · rename_i u hu
    apply ensures_bind
    intro r _
    apply ensures_assert
    intro _
    apply ensures_ok
    exact h.modifyMmeUe (hU u hu) _
  · exact ensures_ok h

theorem Within.sendToNas {t : S1Mme} (h : Within E U s t)
    (hU : ∀ u, (t.enbUes.mem x).mmeUe = some u → u ∈ U) (taken : Bool)
    (s1apCode : S1apProcedureCode) (nasPdu : Option Bytes) :
    Ensures (t.s1apSendToNas taken x s1apCode nasPdu) (Within E U s) := by
  apply ensures_assertSome
  intro pdu _
  apply ensures_bind
  intro stripped _
  apply ensures_assertSome
  intro header _
  refine (h.nasSecurityDecode hU header.1 header.2).bind ?_
  rintro ⟨r, nasbuf⟩ hr
  apply ensures_assertSome
  intro first _
  apply ensures_ite
  · exact fun _ => ensures_ok (hr.push _ _)
  · intro _
    apply ensures_ite
    · intro _
      apply ensures_assertSome
      intro u _
      exact ensures_ok (hr.push _ _)
    · exact fun _ => ensures_error _

theorem within_uplinkNasTransport (env : S1apEnv) (h : s.Covers enb E U) :
    Ensures (s.s1apHandleUplinkNasTransport env enb ies) (Within E U s) := by
  apply ensures_assertSome
  intro id _
  split
  · exact ensures_ok (.refl s)
  · rename_i x hfind
    apply (Within.refl s).sendToNas
    exact fun u hu => h.mem_mmeUes (mem_own_of_find hfind) hu

theorem within_initialUeMessage [Ogslib] (env : S1apEnv) (h : s.Covers enb E U)
    (hold : {y | ∃ v ∈ s.returnedMmeUe ies, (s.mmeUes.mem v).enbUe = some y} ⊆ E)
    (hnew : {y | s.enbUes.live y = false} ⊆ E) (hreturned : s.returnedMmeUe ies ⊆ U)
    (hfresh : ∀ y, s.enbUePoolAlloc env.slot = some y → (s.enbUes.mem y).mmeUe = none) :
    Ensures (s.s1apHandleInitialUeMessage env enb ies) (Within E U s) := by
  apply ensures_assertSome
  intro id _
  refine (within_initialUe env h hold hnew hreturned hfresh id).bind ?_
  rintro ⟨r, x⟩ ⟨hr, hE, hU⟩
  apply ensures_assertSome
  intro tai _
  apply ensures_assertSome
  intro eutranCgi _
  apply ensures_bind
  intro saved _
  apply (hr.modifyEnbUe hE _).sendToNas
  intro u hu
  apply hU u
  rw [apply_modifyEnbUe S1EnbUe.mmeUe] at hu
  · exact hu
  · exact fun _ => rfl

/-! ### Mobility -/

theorem within_pathSwitchRequest (hE : s.movedEnbUe ies ⊆ E)
    (hU : s.mmeUesOf (s.movedEnbUe ies) ⊆ U) :
    Ensures (s.s1apHandlePathSwitchRequest enb ies) (Within E U s) := by
  apply ensures_assertSome
  intro eutranCgi _
  apply ensures_assertSome
  intro tai _
  apply ensures_bind
  intro location _
  apply ensures_assertSome
  intro capabilities _
  apply ensures_assertSome
  intro id hid
  apply ensures_assertSome
  intro enbUeS1apId _
  split
  · exact ensures_ok ((Within.refl s).send _)
  · rename_i x hfind
    have hmoved : x ∈ s.movedEnbUe ies := by
      change ies.sourceMmeUeS1apId.bind _ = _
      rw [hid]
      exact hfind
    have hx := hE hmoved
    apply ensures_assertMmeUe
    intro u hu
    have hu' : u ∈ U := hU ⟨x, hmoved, hu⟩
    apply ensures_ite
    · intro _
      have hset := (((Within.refl s).modifyMmeUe hu' S1MmeUe.nextNh).modifyEnbUe hx fun e =>
        { e with enbUeS1apId := enbUeS1apId, saved := location }).modifyMmeUe hu' fun ue =>
          { ue with
            location := location
            toMmeUe := { ue.toMmeUe with
              eea := UInt8.ofNat (0x80 + capabilities.encryptionAlgorithms.toNat / 2 ^ 9)
              eia := UInt8.ofNat (capabilities.integrityProtectionAlgorithms.toNat / 2 ^ 9) } }
      apply ensures_assertSome
      intro list _
      refine Ensures.bind (P := Within E U s)
        (ensures_foldlM (fun r hr erab _ => hr.pathSwitchErab hu' erab) hset) ?_
      intro r hr
      exact ensures_ok (hr.enbUeSwitchToEnb hx enb)
    · exact fun _ => ensures_ok ((Within.refl s).send _)

theorem within_handoverRequired [Ogslib] (env : S1apEnv) (h : s.Covers enb E U)
    (hnew : {y | s.enbUes.live y = false} ⊆ E)
    (hown : ∀ x u, ies.enbUeS1apId.bind (s.enbUeFindByEnbUeS1apId enb) = some x →
      (s.enbUes.mem x).mmeUe = some u → ∀ y, (s.mmeUes.mem u).enbUe = some y → y = x) :
    Ensures (s.s1apHandleHandoverRequired env enb ies) (Within E U s) := by
  apply ensures_assertSome
  intro targetId _
  split
  · exact ensures_ok (.refl s)
  · apply ensures_bind
    intro targetEnbId _
    split
    · exact ensures_ok (.refl s)
    · rename_i targetEnb _
      apply ensures_assertBoth
      intro x hfind hx
      apply ensures_assertMmeUe
      intro u hu
      have hE := h.enbUes hx
      apply ensures_ite
      · intro _
        have hnh := (Within.refl (E := E) s).modifyMmeUe (h.mem_mmeUes hx hu) S1MmeUe.nextNh
        apply ensures_assertSome
        intro handoverType _
        apply (hnh.modifyEnbUe hE _).sendHandoverRequest
        · intro y hy
          have hkeep : ((s.modifyMmeUe u S1MmeUe.nextNh).mmeUes.mem u).enbUe =
              (s.mmeUes.mem u).enbUe :=
            Pool.apply_mem_modify (g := fun ue : S1MmeUe => ue.enbUe) fun _ => rfl
          have hy' : (s.mmeUes.mem u).enbUe = some y := hkeep.symm.trans hy
          rw [hown x u hfind hu y hy']
          exact hE
        · exact fun y hy => hnew (live_of_poolAlloc hy)
      · intro _
        apply ensures_assertSome
        intro cause _
        exact ensures_ok ((Within.refl s).send _)

/-! ## All messages -/

/-- Every message writes to connections of the eNB and their UEs, to those that its procedure
shares, and to connections that were not in use. -/
theorem within_s1apHandle [Ogslib] (env : S1apEnv) (procedure : S1apProcedure)
    (hstays : s.StaysWithin env enb ies procedure) :
    Ensures (s.s1apHandle env enb ies procedure)
      (Within (s.ownEnbUes enb ∪ s.sharedEnbUes enb ies procedure ∪ {y | s.enbUes.live y = false})
        (s.mmeUesOf (s.ownEnbUes enb) ∪ s.sharedMmeUes enb ies procedure) s) := by
  have hcovers : s.Covers enb
      (s.ownEnbUes enb ∪ s.sharedEnbUes enb ies procedure ∪ {y | s.enbUes.live y = false})
      (s.mmeUesOf (s.ownEnbUes enb) ∪ s.sharedMmeUes enb ies procedure) :=
    ⟨fun y hy => .inl (.inl hy), fun u hu => .inl hu⟩
  have hE : s.sharedEnbUes enb ies procedure ⊆
      s.ownEnbUes enb ∪ s.sharedEnbUes enb ies procedure ∪ {y | s.enbUes.live y = false} :=
    fun y hy => .inl (.inr hy)
  have hU : s.sharedMmeUes enb ies procedure ⊆
      s.mmeUesOf (s.ownEnbUes enb) ∪ s.sharedMmeUes enb ies procedure := fun u hu => .inr hu
  have hnew : {y | s.enbUes.live y = false} ⊆
      s.ownEnbUes enb ∪ s.sharedEnbUes enb ies procedure ∪ {y | s.enbUes.live y = false} :=
    fun y hy => .inr hy
  cases procedure with
  | s1SetupRequest => exact within_s1SetupRequest env
  | initialUeMessage => exact within_initialUeMessage env hcovers hE hnew hU hstays
  | uplinkNasTransport => exact within_uplinkNasTransport env hcovers
  | ueCapabilityInfoIndication => exact within_ueCapabilityInfoIndication hcovers
  | ueContextReleaseRequest => exact within_ueContextReleaseRequest hcovers hstays
  | pathSwitchRequest => exact within_pathSwitchRequest hE hU
  | enbConfigurationTransfer => exact within_enbConfigurationTransfer
  | handoverRequired => exact within_handoverRequired env hcovers hnew hstays
  | handoverCancel => exact within_handoverCancel hE
  | enbStatusTransfer => exact within_enbStatusTransfer
  | handoverNotification => exact within_handoverNotification hcovers hU
  | s1Reset => exact within_s1Reset hcovers hstays
  | initialContextSetupResponse => exact within_initialContextSetupResponse hcovers
  | ueContextModificationResponse => exact within_ueContextModificationResponse hcovers
  | ueContextReleaseComplete => exact within_ueContextReleaseComplete hcovers hE hstays
  | eRabSetupResponse => exact within_eRabSetupResponse hcovers
  | handoverRequestAck => exact within_handoverRequestAck hcovers hU hstays
  | initialContextSetupFailure => exact within_initialContextSetupFailure hcovers
  | ueContextModificationFailure => exact within_ueContextModificationFailure hcovers
  | handoverFailure => exact within_handoverFailure hcovers hstays
  | eRabModifyResponse | eRabReleaseResponse | writeReplaceWarningResponse | killResponse
  | notImplemented => exact ensures_ok (.refl s)

end

end S1Mme

/-! ## Runs -/

namespace S1Mme

/-- Memory that was never used, and no eNB or UE -/
def initial : S1Mme where
  enbUes := .unused fun _ =>
    ⟨0, 0, 0, none, none, .invalidAction, ⟨⟨[], 0⟩, ⟨[], 0⟩⟩, .clear, 0, none⟩
  mmeUes := .unused fun _ =>
    ⟨.zero, ⟨⟨[], 0⟩, ⟨[], 0⟩⟩, [], 0, false, none, none, ⟨0, 0⟩, ⟨0, 0⟩⟩
  enbUeList := fun _ => []
  enbIds := fun _ => 0
  supportedTaList := fun _ => []
  mmeUeS1apId := 0
  mmeUeS1apIdHash := fun _ => none
  enbIdHash := fun _ => none
  gutiUeHash := fun _ => none
  queue := []
  sent := []

/-- `mme_ue_add` for an EMM message from a UE that is not known: the UE gets a GUTI and is tied to
its connection. -/
def mmeUeAdd (s : S1Mme) (enbUe : EnbUeId) (mmeUe : MmeUeId) (sTmsi : S1apSTmsi) : S1Mme :=
  { s with
    mmeUes := s.mmeUes.alloc mmeUe
    gutiUeHash := Function.update s.gutiUeHash sTmsi (some mmeUe) }.associateSTmsi enbUe (some sTmsi)

inductive Event
  | s1ap (env : S1apEnv) (enb : MmeEnbId) (ies : S1apIes) (procedure : S1apProcedure)
  | mmeUeAdd (enbUe : EnbUeId) (mmeUe : MmeUeId) (sTmsi : S1apSTmsi)

inductive Step [Ogslib] [OgsCrypt] : S1Mme → Event → S1Mme → Prop
  | s1ap {s t : S1Mme} {env : S1apEnv} {enb : MmeEnbId} {ies : S1apIes}
      {procedure : S1apProcedure} (h : s.s1apHandle env enb ies procedure = .ok t) :
      Step s (.s1ap env enb ies procedure) t
  | mmeUeAdd {s : S1Mme} {enbUe : EnbUeId} {mmeUe : MmeUeId} {sTmsi : S1apSTmsi}
      (hmmeUe : s.mmeUes.live mmeUe = false) (henbUe : s.enbUes.live enbUe = true)
      (hnew : (s.enbUes.mem enbUe).mmeUe = none) :
      Step s (.mmeUeAdd enbUe mmeUe sTmsi) (s.mmeUeAdd enbUe mmeUe sTmsi)

/-- The elements of an Initial UE Message with an Attach Request -/
def sampleIes (enbUeS1apId : UInt32) (sTmsi : Option S1apSTmsi) : S1apIes where
  enbUeS1apId := some enbUeS1apId
  sTmsi := sTmsi
  nasPdu := some [0x07, 0x41]
  tai := some ⟨[0, 0xf1, 0x10], [0, 1]⟩
  eutranCgi := some ⟨[0, 0xf1, 0x10], [0, 0, 0, 0x10]⟩

def sampleEnv (slot : EnbUeId) : S1apEnv := ⟨some slot, true, fun _ => true⟩

def sampleSTmsi : S1apSTmsi := ⟨1, 7⟩

end S1Mme

open S1Mme

attribute [local instance] Ogslib.reference

end NextEpc

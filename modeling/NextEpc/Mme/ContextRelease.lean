import NextEpc.Mme.EcmAssoc

/-!
# Release of S1 connections

A UE Context Release Command stores in the S1 connection what is to be done with the UE, and a UE
Context Release Complete does it, whatever has become of the UE in the meantime.
-/

namespace NextEpc

/-- `ue_ctx_rel_action`. Memory that was never used holds no action. -/
inductive UeCtxRelAction
  | invalidAction
  | noAction
  | s1NormalRelease
  | ueContextRemove
  | deleteIndirectTunnel
  deriving DecidableEq, Repr

/-- The S1 connections and UEs, with what a release looks at. A slot that is freed keeps its
action. -/
structure S1Context where
  ecm : Ecm
  mmeUeS1apId : UInt32
  enbUeS1apIds : EnbUeId → UInt32
  mmeUeS1apIdHash : UInt32 → Option EnbUeId
  ueCtxRelAction : EnbUeId → UeCtxRelAction
  /-- `mme_ue_have_indirect_tunnel` -/
  indirectTunnel : MmeUeId → Bool

namespace S1Context

/-- No connections, and cleared memory -/
def initial : S1Context where
  ecm := Ecm.initial
  mmeUeS1apId := 0
  enbUeS1apIds := fun _ => 0
  mmeUeS1apIdHash := fun _ => none
  ueCtxRelAction := fun _ => .invalidAction
  indirectTunnel := fun _ => false

/-! ## Connections -/

/-- `OGS_NEXT_ID(self.mme_ue_s1ap_id, 1, 0xffffffff)` -/
def nextMmeUeS1apId [Ogslib] (s : S1Context) : UInt32 :=
  Ogslib.nextId s.mmeUeS1apId 1 0xffffffff

def enbUeAdd [Ogslib] (s : S1Context) (enbUe : EnbUeId) (enb : MmeEnbId) : S1Context :=
  { s with
    ecm := s.ecm.enbUeAdd enbUe enb
    mmeUeS1apId := s.nextMmeUeS1apId
    enbUeS1apIds := Function.update s.enbUeS1apIds enbUe s.nextMmeUeS1apId
    mmeUeS1apIdHash := Function.update s.mmeUeS1apIdHash s.nextMmeUeS1apId (some enbUe) }

def enbUeRemove (s : S1Context) (enbUe : EnbUeId) : S1Context :=
  { s with
    ecm := s.ecm.enbUeRemove enbUe
    mmeUeS1apIdHash := Function.update s.mmeUeS1apIdHash (s.enbUeS1apIds enbUe) none }

def mmeEnbRemove (s : S1Context) (enb : MmeEnbId) : S1Context :=
  (s.ecm.enbUeList enb).foldl enbUeRemove s

/-- A NAS message or an S-TMSI ties a UE to a connection, with an implicit S1 release. -/
def reassociate (s : S1Context) (mmeUe : MmeUeId) (enbUe : EnbUeId) : S1Context :=
  -- `ECM_CONNECTED`
  let s := match s.ecm.mmeUes.mem mmeUe with
    | some old => s.enbUeRemove old
    | none => s
  { s with ecm := s.ecm.mmeUeAssociateEnbUe mmeUe enbUe }

/-- `s1ap_handle_handover_notify` -/
def handoverNotify (s : S1Context) (targetUe : EnbUeId) : MmeM S1Context := do
  let mmeUe ← Fallible.assertSome .s1apHandler (s.ecm.enbUes.mem targetUe).mmeUe
  .ok { s with ecm := s.ecm.mmeUeAssociateEnbUe mmeUe targetUe }

/-! ## The release -/

/-- `s1ap_send_ue_context_release_command`, after `CLEAR_ENB_UE_TIMER` -/
def ueContextReleaseCommand (s : S1Context) (enbUe : EnbUeId) (action : UeCtxRelAction) :
    S1Context :=
  { s with ueCtxRelAction := Function.update s.ueCtxRelAction enbUe action }

/-- The UE that a pointer of a connection points to -/
def useMmeUe (s : S1Context) (mmeUe : Option MmeUeId) : MmeM MmeUeId := do
  let mmeUe ← Fallible.assertSome .mmeContext mmeUe
  if s.ecm.mmeUes.live mmeUe then .ok mmeUe else .error .dangling

/-- `s1ap_handle_ue_context_release_complete`. `xact` is whether there is a transaction for a
request to the SGW. -/
def ueContextReleaseComplete (s : S1Context) (id : Option UInt32) (xact : Bool) :
    MmeM S1Context := do
  let id ← Fallible.assertSome .s1apHandler id
  match s.mmeUeS1apIdHash id with
  | none => .ok s
  | some enbUe =>
    let mmeUe := (s.ecm.enbUes.mem enbUe).mmeUe
    match s.ueCtxRelAction enbUe with
    | .noAction => .ok (s.enbUeRemove enbUe)
    | .s1NormalRelease => do
      let s := s.enbUeRemove enbUe
      let mmeUe ← s.useMmeUe mmeUe
      .ok { s with ecm := s.ecm.mmeUeDeassociate mmeUe }
    | .ueContextRemove => do
      let s := s.enbUeRemove enbUe
      let mmeUe ← s.useMmeUe mmeUe
      .ok { s with ecm := s.ecm.mmeUeRemove mmeUe }
    | .deleteIndirectTunnel => do
      let ecm ← s.ecm.sourceUeDeassociateTargetUe enbUe
      let s := { s with ecm := ecm }.enbUeRemove enbUe
      let mmeUe ← s.useMmeUe mmeUe
      if s.indirectTunnel mmeUe then do
        Fallible.assert .s1apHandler (xact = true)
        .ok s
      else .ok { s with indirectTunnel := Function.update s.indirectTunnel mmeUe false }
    | .invalidAction => .error (.assert .s1apHandler)

end S1Context

/-! ## Runs -/

inductive S1Event
  | enbUeAdd (enbUe : EnbUeId) (enb : MmeEnbId)
  | mmeUeAdd (mmeUe : MmeUeId)
  | mmeUeRemove (mmeUe : MmeUeId)
  | reassociate (mmeUe : MmeUeId) (enbUe : EnbUeId)
  | handover (sourceUe targetUe : EnbUeId)
  | handoverNotify (targetUe : EnbUeId)
  | pathSwitch (enbUe : EnbUeId) (enb : MmeEnbId)
  | enbLost (enb : MmeEnbId)
  | indirectTunnel (mmeUe : MmeUeId) (present : Bool)
  | releaseCommand (enbUe : EnbUeId) (action : UeCtxRelAction)
  | releaseComplete (id : Option UInt32) (xact : Bool)

namespace S1Context

def exec [Ogslib] (s : S1Context) : S1Event → MmeM S1Context
  | .enbUeAdd enbUe enb => .ok (s.enbUeAdd enbUe enb)
  | .mmeUeAdd mmeUe => .ok { s with ecm := s.ecm.mmeUeAdd mmeUe }
  | .mmeUeRemove mmeUe => .ok { s with ecm := s.ecm.mmeUeRemove mmeUe }
  | .reassociate mmeUe enbUe => .ok (s.reassociate mmeUe enbUe)
  | .handover sourceUe targetUe => do
    let ecm ← s.ecm.sourceUeAssociateTargetUe sourceUe targetUe
    .ok { s with ecm := ecm }
  | .handoverNotify targetUe => s.handoverNotify targetUe
  | .pathSwitch enbUe enb => .ok { s with ecm := s.ecm.enbUeSwitchToEnb enbUe enb }
  | .enbLost enb => .ok (s.mmeEnbRemove enb)
  | .indirectTunnel mmeUe present =>
    .ok { s with indirectTunnel := Function.update s.indirectTunnel mmeUe present }
  | .releaseCommand enbUe action => .ok (s.ueContextReleaseCommand enbUe action)
  | .releaseComplete id xact => s.ueContextReleaseComplete id xact

/-- New objects get free slots, and the others are in use. A command has an action. -/
def Admits (s : S1Context) : S1Event → Prop
  | .enbUeAdd enbUe _ => s.ecm.enbUes.live enbUe = false
  | .mmeUeAdd mmeUe => s.ecm.mmeUes.live mmeUe = false
  | .mmeUeRemove mmeUe => s.ecm.mmeUes.live mmeUe = true
  | .reassociate mmeUe enbUe => s.ecm.mmeUes.live mmeUe = true ∧ s.ecm.enbUes.live enbUe = true
  | .handover sourceUe targetUe => s.ecm.enbUes.live sourceUe = true ∧
      s.ecm.enbUes.live targetUe = true ∧ sourceUe ≠ targetUe
  | .handoverNotify targetUe => s.ecm.enbUes.live targetUe = true
  | .pathSwitch enbUe _ => s.ecm.enbUes.live enbUe = true
  | .releaseCommand enbUe action =>
      s.ecm.enbUes.live enbUe = true ∧ action ≠ .invalidAction
  | .enbLost _ | .indirectTunnel _ _ | .releaseComplete _ _ => True

/-- The MME handles an event. The label is the event and the state that it meets. -/
inductive Step [Ogslib] : MmeM S1Context → S1Event × S1Context → MmeM S1Context → Prop
  | run {s : S1Context} {event : S1Event} (h : s.Admits event) :
      Step (.ok s) (event, s) (s.exec event)

/-- The connection of a Complete is removed, if there is one, and nothing else is: a UE that is
associated with another connection stays so. -/
def RemovesOnly (s : S1Context) (id : Option UInt32) (t : MmeM S1Context) : Prop :=
  ∃ t', t = .ok t' ∧
    match id.bind s.mmeUeS1apIdHash with
    | none => t' = s
    | some enbUe =>
      (∀ x, t'.ecm.enbUes.live x = if x = enbUe then false else s.ecm.enbUes.live x) ∧
        ∀ mmeUe other, s.ecm.mmeUes.live mmeUe = true → s.ecm.mmeUes.mem mmeUe = some other →
          other ≠ enbUe → t'.ecm.mmeUes.live mmeUe = true ∧ t'.ecm.mmeUes.mem mmeUe = some other

/-- What is claimed of a step -/
def Proper (step : (S1Event × S1Context) × MmeM S1Context) : Prop :=
  match step.1.1 with
  | .releaseComplete id _ => RemovesOnly step.1.2 id step.2
  | _ => True

/-! ## The condition -/

/-- The UE of a connection is there, and not associated with another connection. -/
def OwnsMmeUe (s : S1Context) (enbUe : EnbUeId) : Prop :=
  ∃ mmeUe, (s.ecm.enbUes.mem enbUe).mmeUe = some mmeUe ∧ s.ecm.mmeUes.live mmeUe = true ∧
    ∀ other, s.ecm.mmeUes.mem mmeUe = some other → other = enbUe

/-- The connection that a handover ties to this one points back. -/
def HandoverLinked (s : S1Context) (enbUe : EnbUeId) : Prop :=
  match (s.ecm.enbUes.mem enbUe).targetUe, (s.ecm.enbUes.mem enbUe).sourceUe with
  | some targetUe, _ => (s.ecm.enbUes.mem targetUe).sourceUe ≠ none
  | none, some sourceUe => (s.ecm.enbUes.mem sourceUe).targetUe ≠ none
  | none, none => True

/-- A Complete has the identity of a connection; a command was sent on it; and for its action, the
UE is there and on no other connection, or there to lose its indirect tunnels. -/
def Releasable (s : S1Context) (id : Option UInt32) (xact : Bool) : Prop :=
  id.isSome ∧ ∀ enbUe ∈ id.bind s.mmeUeS1apIdHash,
    match s.ueCtxRelAction enbUe with
    | .noAction => True
    | .s1NormalRelease | .ueContextRemove => s.OwnsMmeUe enbUe
    | .deleteIndirectTunnel => s.HandoverLinked enbUe ∧
        ∃ mmeUe, (s.ecm.enbUes.mem enbUe).mmeUe = some mmeUe ∧ s.ecm.mmeUes.live mmeUe = true ∧
          (s.indirectTunnel mmeUe = true → xact = true)
    | .invalidAction => False

def ReleaseGuard (_ : MmeM S1Context) (label : S1Event × S1Context) : Prop :=
  match label.1 with
  | .releaseComplete id xact => label.2.Releasable id xact
  | _ => True

/-! ## One Complete -/

section
variable {s t : S1Context} {enbUe x : EnbUeId} {mmeUe : MmeUeId} {o : Option MmeUeId}

theorem useMmeUe_eq_ok :
    s.useMmeUe o = .ok mmeUe ↔ o = some mmeUe ∧ s.ecm.mmeUes.live mmeUe = true := by
  rw [useMmeUe, Fallible.bind_eq_ok]
  constructor
  · rintro ⟨m, hm, h⟩
    rw [Fallible.assertSome_eq_ok] at hm
    split at h
    · cases h
      exact ⟨hm, by assumption⟩
    · cases h
  · rintro ⟨rfl, hlive⟩
    exact ⟨mmeUe, rfl, by rw [if_pos hlive]⟩

theorem live_enbUeRemove :
    (s.enbUeRemove enbUe).ecm.enbUes.live x = if x = enbUe then false else s.ecm.enbUes.live x :=
  Ecm.live_enbUeRemove

theorem removesOnly_some {id : UInt32} {r : MmeM S1Context}
    (hhash : s.mmeUeS1apIdHash id = some enbUe) :
    RemovesOnly s (some id) r ↔ ∃ t, r = .ok t ∧
      (∀ x, t.ecm.enbUes.live x = if x = enbUe then false else s.ecm.enbUes.live x) ∧
        ∀ mmeUe other, s.ecm.mmeUes.live mmeUe = true → s.ecm.mmeUes.mem mmeUe = some other →
          other ≠ enbUe → t.ecm.mmeUes.live mmeUe = true ∧ t.ecm.mmeUes.mem mmeUe = some other := by
  rw [RemovesOnly, Option.bind_some, hhash]

/-- Actions that end the association of the UE are proper exactly when the UE is there and on no
other connection. -/
theorem release_iff {f : Ecm → MmeUeId → Ecm} {id : UInt32}
    (hhash : s.mmeUeS1apIdHash id = some enbUe)
    (henbUes : ∀ ecm m, (f ecm m).enbUes = ecm.enbUes)
    (hother : ∀ ecm m y, y ≠ m → (f ecm m).mmeUes.live y = ecm.mmeUes.live y ∧
      (f ecm m).mmeUes.mem y = ecm.mmeUes.mem y)
    (hself : ∀ ecm m, (f ecm m).mmeUes.mem m = none) :
    RemovesOnly s (some id) (do
      let mmeUe ← (s.enbUeRemove enbUe).useMmeUe (s.ecm.enbUes.mem enbUe).mmeUe
      .ok { s.enbUeRemove enbUe with ecm := f (s.enbUeRemove enbUe).ecm mmeUe }) ↔
    s.OwnsMmeUe enbUe := by
  have hmmeUes : (s.enbUeRemove enbUe).ecm.mmeUes = s.ecm.mmeUes := rfl
  rw [removesOnly_some hhash]
  constructor
  · rintro ⟨t, ht, -, hkeeps⟩
    obtain ⟨mmeUe, huse, ht⟩ := Fallible.bind_eq_ok.mp ht
    cases ht
    obtain ⟨hmmeUe, hlive⟩ := useMmeUe_eq_ok.mp huse
    rw [hmmeUes] at hlive
    refine ⟨mmeUe, hmmeUe, hlive, ?_⟩
    intro other hassoc
    by_contra hne
    have hkept := (hkeeps mmeUe other hlive hassoc hne).2
    rw [hself] at hkept
    cases hkept
  · rintro ⟨mmeUe, hmmeUe, hlive, howns⟩
    have huse : (s.enbUeRemove enbUe).useMmeUe (s.ecm.enbUes.mem enbUe).mmeUe = .ok mmeUe :=
      useMmeUe_eq_ok.mpr ⟨hmmeUe, hlive⟩
    refine ⟨_, by rw [huse]; rfl, ?_, ?_⟩
    · intro x
      change (f (s.enbUeRemove enbUe).ecm mmeUe).enbUes.live x = _
      rw [henbUes]
      exact live_enbUeRemove
    · intro y other hy hassoc hne
      have hdiff : y ≠ mmeUe := by
        rintro rfl
        exact hne (howns other hassoc)
      obtain ⟨hlive', hmem'⟩ := hother (s.enbUeRemove enbUe).ecm mmeUe y hdiff
      exact ⟨hlive'.trans hy, hmem'.trans hassoc⟩

theorem clearHandover_ok_iff {ecm : Ecm} {sourceUe targetUe : EnbUeId} :
    (∃ ecm', ecm.clearHandover sourceUe targetUe = .ok ecm') ↔
      (ecm.enbUes.mem sourceUe).targetUe ≠ none ∧ (ecm.enbUes.mem targetUe).sourceUe ≠ none := by
  constructor
  · rintro ⟨ecm', h⟩
    obtain ⟨_, hsource, h⟩ := Fallible.bind_eq_ok.mp h
    obtain ⟨_, htarget, -⟩ := Fallible.bind_eq_ok.mp h
    exact ⟨Fallible.assert_eq_ok.mp hsource, Fallible.assert_eq_ok.mp htarget⟩
  · rintro ⟨hsource, htarget⟩
    rw [Ecm.clearHandover, Fallible.assert_of hsource, Fallible.assert_of htarget]
    exact ⟨_, rfl⟩

theorem sourceUeDeassociateTargetUe_ok_iff :
    (∃ ecm', s.ecm.sourceUeDeassociateTargetUe enbUe = .ok ecm') ↔ s.HandoverLinked enbUe := by
  rw [Ecm.sourceUeDeassociateTargetUe, HandoverLinked]
  cases htarget : (s.ecm.enbUes.mem enbUe).targetUe with
  | some targetUe =>
    dsimp only
    rw [clearHandover_ok_iff, htarget]
    exact and_iff_right (Option.some_ne_none _)
  | none =>
    cases hsource : (s.ecm.enbUes.mem enbUe).sourceUe with
    | some sourceUe =>
      dsimp only
      rw [clearHandover_ok_iff, hsource]
      exact and_iff_left (Option.some_ne_none _)
    | none => exact iff_of_true ⟨s.ecm, rfl⟩ trivial

/-- What ends a handover leaves the UEs, and which connections there are. -/
theorem sourceUeDeassociateTargetUe_frame {ecm ecm' : Ecm}
    (h : ecm.sourceUeDeassociateTargetUe enbUe = .ok ecm') :
    ecm'.mmeUes = ecm.mmeUes ∧ ecm'.enbUes.live = ecm.enbUes.live := by
  unfold Ecm.sourceUeDeassociateTargetUe at h
  split at h
  · obtain ⟨hmmeUes, hlive, -⟩ := Ecm.clearHandover_ok h
    exact ⟨hmmeUes, hlive⟩
  · obtain ⟨hmmeUes, hlive, -⟩ := Ecm.clearHandover_ok h
    exact ⟨hmmeUes, hlive⟩
  · cases h
    exact ⟨rfl, rfl⟩

theorem deleteIndirectTunnel_iff {id : UInt32} (hhash : s.mmeUeS1apIdHash id = some enbUe)
    (xact : Bool) :
    RemovesOnly s (some id) (do
      let ecm ← s.ecm.sourceUeDeassociateTargetUe enbUe
      let s' := { s with ecm := ecm }.enbUeRemove enbUe
      let mmeUe ← s'.useMmeUe (s.ecm.enbUes.mem enbUe).mmeUe
      if s'.indirectTunnel mmeUe then do
        Fallible.assert .s1apHandler (xact = true)
        .ok s'
      else .ok { s' with indirectTunnel := Function.update s'.indirectTunnel mmeUe false }) ↔
    s.HandoverLinked enbUe ∧ ∃ mmeUe, (s.ecm.enbUes.mem enbUe).mmeUe = some mmeUe ∧
      s.ecm.mmeUes.live mmeUe = true ∧ (s.indirectTunnel mmeUe = true → xact = true) := by
  rw [removesOnly_some hhash]
  constructor
  · rintro ⟨t, ht, -⟩
    obtain ⟨ecm, hecm, ht⟩ := Fallible.bind_eq_ok.mp ht
    obtain ⟨mmeUe, huse, ht⟩ := Fallible.bind_eq_ok.mp ht
    obtain ⟨hmmeUes, -⟩ := sourceUeDeassociateTargetUe_frame hecm
    obtain ⟨hmmeUe, hlive⟩ := useMmeUe_eq_ok.mp huse
    change ecm.mmeUes.live mmeUe = true at hlive
    rw [hmmeUes] at hlive
    refine ⟨sourceUeDeassociateTargetUe_ok_iff.mp ⟨ecm, hecm⟩, mmeUe, hmmeUe, hlive, ?_⟩
    intro htunnel
    change (if s.indirectTunnel mmeUe = true then _ else _) = _ at ht
    rw [if_pos htunnel] at ht
    obtain ⟨_, hxact, -⟩ := Fallible.bind_eq_ok.mp ht
    exact Fallible.assert_eq_ok.mp hxact
  · rintro ⟨hlinked, mmeUe, hmmeUe, hlive, hxact⟩
    obtain ⟨ecm, hecm⟩ := sourceUeDeassociateTargetUe_ok_iff.mpr hlinked
    obtain ⟨hmmeUes, henbUes⟩ := sourceUeDeassociateTargetUe_frame hecm
    have huse : ({ s with ecm := ecm }.enbUeRemove enbUe).useMmeUe
        (s.ecm.enbUes.mem enbUe).mmeUe = .ok mmeUe := by
      apply useMmeUe_eq_ok.mpr
      refine ⟨hmmeUe, ?_⟩
      change ecm.mmeUes.live mmeUe = true
      rw [hmmeUes]
      exact hlive
    have hleft (x : EnbUeId) : (ecm.enbUeRemove enbUe).enbUes.live x =
        if x = enbUe then false else s.ecm.enbUes.live x := by
      rw [Ecm.live_enbUeRemove, henbUes]
    have hkept (y : MmeUeId) (other : EnbUeId) (hy : s.ecm.mmeUes.live y = true)
        (hassoc : s.ecm.mmeUes.mem y = some other) : ecm.mmeUes.live y = true ∧
        ecm.mmeUes.mem y = some other := by
      rw [hmmeUes]
      exact ⟨hy, hassoc⟩
    rw [hecm]
    simp only [Fallible.ok_bind, huse]
    split
    · rename_i htunnel
      rw [Fallible.assert_of (hxact htunnel)]
      exact ⟨_, rfl, hleft, fun y other hy hassoc _ => hkept y other hy hassoc⟩
    · exact ⟨_, rfl, hleft, fun y other hy hassoc _ => hkept y other hy hassoc⟩

theorem removesOnly_iff (s : S1Context) (id : Option UInt32) (xact : Bool) :
    RemovesOnly s id (s.ueContextReleaseComplete id xact) ↔ s.Releasable id xact := by
  cases id with
  | none =>
    apply iff_of_false
    · rintro ⟨t, ht, -⟩
      cases ht
    · rintro ⟨hsome, -⟩
      cases hsome
  | some id =>
    cases hhash : s.mmeUeS1apIdHash id with
    | none =>
      apply iff_of_true
      · refine ⟨s, ?_, ?_⟩
        · simp only [ueContextReleaseComplete, Fallible.assertSome_some, Fallible.ok_bind, hhash]
        · rw [Option.bind_some, hhash]
      · refine ⟨rfl, ?_⟩
        rw [Option.bind_some, hhash]
        rintro _ ⟨⟩
    | some enbUe =>
      have hguard : s.Releasable (some id) xact ↔
          match s.ueCtxRelAction enbUe with
          | .noAction => True
          | .s1NormalRelease | .ueContextRemove => s.OwnsMmeUe enbUe
          | .deleteIndirectTunnel => s.HandoverLinked enbUe ∧
              ∃ mmeUe, (s.ecm.enbUes.mem enbUe).mmeUe = some mmeUe ∧
                s.ecm.mmeUes.live mmeUe = true ∧ (s.indirectTunnel mmeUe = true → xact = true)
          | .invalidAction => False := by
        simp [Releasable, hhash]
      rw [hguard]
      simp only [ueContextReleaseComplete, Fallible.assertSome_some, Fallible.ok_bind, hhash]
      cases haction : s.ueCtxRelAction enbUe with
      | noAction =>
        apply iff_of_true _ trivial
        rw [removesOnly_some hhash]
        exact ⟨_, rfl, fun x => live_enbUeRemove, fun _ _ hlive hassoc _ => ⟨hlive, hassoc⟩⟩
      | s1NormalRelease =>
        apply release_iff hhash
        · exact fun _ _ => rfl
        · intro ecm m y hne
          simp [Ecm.mmeUeDeassociate, hne]
        · intro ecm m
          simp [Ecm.mmeUeDeassociate]
      | ueContextRemove =>
        apply release_iff hhash
        · exact fun _ _ => rfl
        · intro ecm m y hne
          simp [Ecm.mmeUeRemove, Ecm.mmeUeDeassociate, hne]
        · intro ecm m
          simp [Ecm.mmeUeRemove, Ecm.mmeUeDeassociate]
      | deleteIndirectTunnel => exact deleteIndirectTunnel_iff hhash xact
      | invalidAction =>
        apply iff_of_false _ not_false
        rintro ⟨t, ht, -⟩
        cases ht

end

theorem proper_iff [Ogslib] {s t : MmeM S1Context} {label : S1Event × S1Context}
    (hstep : Step s label t) : Proper (label, t) ↔ ReleaseGuard s label := by
  cases hstep with
  | @run s event hadmits =>
    cases event with
    | releaseComplete id xact => exact removesOnly_iff s id xact
    | _ => exact Iff.rfl

end S1Context

open S1Context

/-- In every run, from any state, all UE Context Release Completes remove their connections and
nothing else, and fail no assertion, if and only if each of them meets its condition. -/
theorem releaseComplete_run_iff [Ogslib] (s : S1Context)
    (trace : List ((S1Event × S1Context) × MmeM S1Context)) (hrun : Lts.Trace Step (.ok s) trace) :
    (∀ step ∈ trace, Proper step) ↔ Lts.Trace (Lts.Restrict ReleaseGuard Step) (.ok s) trace := by
  apply Lts.Trace.labels_iff (J := fun _ => True)
  · exact fun _ _ _ _ _ => trivial
  · exact fun _ _ _ _ hstep => proper_iff hstep
  · exact hrun
  · trivial

attribute [local instance] Ogslib.reference

namespace S1Context

/-- A UE on a first connection -/
def onFirst : S1Context :=
  { (initial.enbUeAdd 1 0) with ecm := (initial.enbUeAdd 1 0).ecm.mmeUeAdd 5 }.reassociate 5 1

/-- The command is sent, and a second connection is there. -/
def returning : S1Context := (onFirst.ueContextReleaseCommand 1 .s1NormalRelease).enbUeAdd 2 0

end S1Context

/-- A UE that is being released comes back on another connection. The Complete for the first one
is late, and changes nothing. -/
theorem releaseComplete_run_late :
    ∃ trace : List ((S1Event × S1Context) × MmeM S1Context), trace.length = 4 ∧
      ∀ step ∈ trace, Proper step := by
  have hcommand : Step (.ok onFirst) (.releaseCommand 1 .s1NormalRelease, onFirst)
      (.ok (onFirst.ueContextReleaseCommand 1 .s1NormalRelease)) := .run ⟨rfl, by decide⟩
  have hadd : Step (.ok (onFirst.ueContextReleaseCommand 1 .s1NormalRelease))
      (.enbUeAdd 2 0, onFirst.ueContextReleaseCommand 1 .s1NormalRelease) (.ok returning) :=
    .run rfl
  have hreturn : Step (.ok returning) (.reassociate 5 2, returning)
      (.ok (returning.reassociate 5 2)) := .run ⟨rfl, rfl⟩
  have hcomplete : Step (.ok (returning.reassociate 5 2))
      (.releaseComplete (some 1) true, returning.reassociate 5 2)
      ((returning.reassociate 5 2).exec (.releaseComplete (some 1) true)) := .run trivial
  refine ⟨_, ?_, (releaseComplete_run_iff onFirst _
    (.cons hcommand (.cons hadd (.cons hreturn (.cons hcomplete (.nil _)))))).mpr
    (.cons ⟨trivial, hcommand⟩ (.cons ⟨trivial, hadd⟩ (.cons ⟨trivial, hreturn⟩
      (.cons ⟨⟨rfl, ?_⟩, hcomplete⟩ (.nil _)))))⟩
  · rfl
  · rintro _ ⟨⟩

/-- A Complete to which no command was sent: an assertion fails. -/
theorem releaseComplete_unsolicited :
    ¬∀ trace : List ((S1Event × S1Context) × MmeM S1Context),
      Lts.Trace Step (.ok initial) trace → ∀ step ∈ trace, Proper step := by
  intro hclaim
  have hadd : Step (.ok initial) (.enbUeAdd 1 0, initial) (.ok (initial.enbUeAdd 1 0)) := .run rfl
  have hcomplete : Step (.ok (initial.enbUeAdd 1 0))
      (.releaseComplete (some 1) true, initial.enbUeAdd 1 0)
      ((initial.enbUeAdd 1 0).exec (.releaseComplete (some 1) true)) := .run trivial
  obtain ⟨t, ht, -⟩ := hclaim _ (.cons hadd (.cons hcomplete (.nil _))) _
    (List.mem_cons_of_mem _ List.mem_cons_self)
  cases ht

end NextEpc

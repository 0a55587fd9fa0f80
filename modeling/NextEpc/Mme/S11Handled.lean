import NextEpc.Mme.AttachAccept
import NextEpc.Mme.S11Returns
import NextEpc.Mme.S1apFrame

/-!
# Runs of S11 messages

Which messages each handler takes without a failure, in the state that the UE is in, and that a run
returns exactly if each of its messages is of this kind when it arrives. What else the MME does in
the meantime is any change of its state.
-/

namespace NextEpc
open Fallible

/-! ## Conditions -/

namespace S11Mme
section
variable [MmeCodec] (s : S11Mme)

/-- The state of the UE is one in which it waits for a session, which can be accepted. -/
def AcceptsSession (ue : S11Ue) (sess : S11Sess) : Prop :=
  match ue.sm with
  | .initialContextSetup =>
    match s.csmaps ue.tai with
    | some csmap => s.vlrSock csmap = true
    | none => s.SendsAttachAccept { ue with
        toMmeUe := { ue.toMmeUe with t3450 := .clear }, csmap := none }
  | .registered => ∃ pdn bearer, ue.BuildsDefault sess pdn bearer ∧
      s.SetsUp ue.enbUe { bearer with qos := (ue.pdns pdn).qos }
  | _ => False

/-- The bearer is known, its session has a PDN, the address is not longer than the field, and the
session can be accepted; or an information element is missing. -/
def HandlesCreateSessionResponse (mmeUe : MmeUeId) (senderFTeid : Option GtpFTeid)
    (pdnAddressAllocation pco : Option Bytes) (bearerContextsCreated : Option GtpBearerContext) :
    Prop :=
  match senderFTeid, pdnAddressAllocation, bearerContextsCreated with
  | some sgwS11Teid, some paa, some context =>
    match context.s1UEnodebFTeid, context.epsBearerId with
    | some sgwS1uTeid, some ebi => ∃ sess bearer pdn,
        (s.mmeUes.mem mmeUe).bearerFindByUeEbi ebi = some (sess, bearer) ∧ sess.pdn = some pdn ∧
        paa.length ≤ MmeCodec.paaSize ∧ ∃ h : sgwS1uTeid.HasAddress,
          s.AcceptsSession (createdUe (s.mmeUes.mem mmeUe)
            (createdSess sess bearer pco (sgwS1uTeid.tunnel h)) pdn sgwS11Teid.teid paa)
            (createdSess sess bearer pco (sgwS1uTeid.tunnel h))
    | _, _ => True
  | _, _, _ => True

/-- The UE is at the target of a handover, whose source can be released. -/
def CompletesHandover (ue : S11Ue) : Prop :=
  ∃ targetUe sourceUe, ue.enbUe = some targetUe ∧ s.enbUes.live targetUe = true ∧
    (s.enbUes.mem targetUe).sourceUe = some sourceUe ∧
    s.Releases sourceUe causeSuccessfulHandover

/-- A path switch or a handover that is complete can be answered. -/
def HandlesModifyBearerResponse (mmeUe : MmeUeId) : Prop :=
  let ue := s.mmeUes.mem mmeUe
  (ue.pathSwitchCounter.check.2 = true → s.SendsTo ue.enbUe fun ids =>
    .pathSwitchRequestAcknowledge ids ue.nhcc ue.nh) ∧
  (ue.handoverNotifyCounter.check.2 = true → s.CompletesHandover ue)

/-- The session is there, and the UE is in a state in which a session may end. -/
def HandlesDeleteSessionResponse (mmeUe : MmeUeId) (sess : Option (MmeUeId × MmeSessId))
    (cause : Bool) : Prop :=
  ∃ owner id sess', sess = some (owner, id) ∧
    (s.mmeUes.mem owner).sessList.find? (fun sess => sess.id = id) = some sess' ∧
    (cause = true →
      match (s.mmeUes.mem mmeUe).sm with
      | .authentication => True
      | .deRegistered => (s.mmeUes.mem mmeUe).sessList.length = 1 →
          s.SendsDetachAccept (s.mmeUes.mem mmeUe)
      | .registered => ∃ bearer, sess'.defaultBearer = some bearer ∧
          match bearer.sm with
          | .pdnWillDisconnect => (s.mmeUes.mem owner).Protects ∧
              s.SendsTo (s.mmeUes.mem owner).enbUe fun ids => .eRabReleaseCommand ids
                (s.mmeUes.mem owner).ambr bearer.ebi causeNasNormalRelease
          | .active | .inactive => s.ReleasesLast (s.mmeUes.mem mmeUe)
          | _ => False
      | .initialContextSetup | .exception => s.ReleasesLast (s.mmeUes.mem mmeUe)
      | .securityMode => False)

/-- The bearer is known and activated, and the UE can be asked to give it up. -/
def HandlesDeleteBearerRequest (mmeUe : MmeUeId) (linkedEpsBearerId epsBearerIds : Option UInt8) :
    Prop :=
  ∀ ebi, (linkedEpsBearerId <|> epsBearerIds) = some ebi → ∃ sess bearer,
    (s.mmeUes.mem mmeUe).bearerFindByUeEbi ebi = some (sess, bearer) ∧ Activated bearer ∧
    (s.mmeUes.mem mmeUe).Protects ∧ s.SendsTo (s.mmeUes.mem mmeUe).enbUe fun ids =>
      .eRabReleaseCommand ids (s.mmeUes.mem mmeUe).ambr bearer.ebi causeNasNormalRelease

/-- The bearer is known and activated, the QoS has its size, and the UE can be told what is new. -/
def HandlesUpdateBearerRequest [OgsConv] (mmeUe : MmeUeId)
    (bearerContexts : Option GtpBearerContext) :
    Prop :=
  ∀ context, bearerContexts = some context → ∀ ebi, context.epsBearerId = some ebi →
    ∃ sess bearer, (s.mmeUes.mem mmeUe).bearerFindByUeEbi ebi = some (sess, bearer) ∧
      Activated bearer ∧
      (∀ octet, context.bearerLevelQos = some octet → octet.length = gtpBearerQosLen) ∧
      (context.bearerLevelQos.isSome = true ∨ context.tft.isSome = true →
        (context.tft.isSome = true → S11Ue.HasTft context.tft) ∧ (s.mmeUes.mem mmeUe).Protects ∧
        match context.bearerLevelQos with
        | some octet => s.SendsTo (s.mmeUes.mem mmeUe).enbUe fun ids => .eRabModifyRequest ids
            bearer.ebi (gtpBearerQosFields octet).qos.raised
        | none => s.SendsIfConnected (s.mmeUes.mem mmeUe).enbUe)

/-- A connection that the UE has can be released. -/
def HandlesReleaseAccessBearersResponse (mmeUe : MmeUeId) (cause : Bool) : Prop :=
  cause = true → ∀ enbUe, (s.mmeUes.mem mmeUe).enbUe = some enbUe →
    s.Releases enbUe causeNasNormalRelease

/-- The linked bearer is known, there is a slot for a new one, the tunnel has an address and the QoS
its size; and where the default bearer is activated, the UE can be told. -/
def HandlesCreateBearerRequest [OgsConv] [Ogslib] (mmeUe : MmeUeId) (xact : Nat)
    (slot : Option S11Bearer) (linkedEpsBearerId : Option UInt8)
    (bearerContexts : Option GtpBearerContext) : Prop :=
  match linkedEpsBearerId, bearerContexts with
  | some linkedEbi, some context =>
    match context.epsBearerId, context.s1UEnodebFTeid, context.bearerLevelQos, context.tft with
    | some _, some sgwS1uTeid, some octet, some tft => ∃ sess linked,
        (s.mmeUes.mem mmeUe).bearerFindByUeEbi linkedEbi = some (sess, linked) ∧
        ∃ unused, slot = some unused ∧ ∃ h : sgwS1uTeid.HasAddress,
          octet.length = gtpBearerQosLen ∧
          ∀ default, sess.defaultBearer = some default → default.id ≠ unused.id →
            Activated default → S11Ue.HasTft (some tft) ∧ (s.mmeUes.mem mmeUe).Protects ∧
              s.SetsUp (s.mmeUes.mem mmeUe).enbUe { unused with
                ebi := nextEbi (s.mmeUes.mem mmeUe).ebi
                sm := .inactive
                sgwS1u := sgwS1uTeid.tunnel h
                qos := (gtpBearerQosFields octet).qos
                tft := some tft
                xact := some xact }
    | _, _, _, _ => True
  | _, _ => True

end

/-! ### Indirect tunnels -/

/-- An F-TEID is absent or has an address. -/
def StoresTunnel (teid : Option GtpFTeid) : Prop := ∀ f, teid = some f → f.HasAddress

/-- A tunnel after an F-TEID that may be there -/
def storedTunnel (tunnel : GtpTunnel) (teid : Option GtpFTeid) : GtpTunnel :=
  match teid with
  | some f => if h : f.HasAddress then f.tunnel h else tunnel
  | none => tunnel

/-- Up to the first bearer context that is absent or has no EPS bearer identity, all name bearers
that are known, and addresses. Not all the contexts are there. -/
def StoresTunnels (ue : S11Ue) : List (Option GtpBearerContext) → Prop
  | [] => False
  | none :: _ => True
  | some context :: rest =>
    match context.epsBearerId with
    | none => True
    | some ebi => (ue.bearerFindByUeEbi ebi).isSome = true ∧ StoresTunnel context.s4USgsnFTeid ∧
        StoresTunnel context.s2bUEpdgFTeid5 ∧ StoresTunnels ue rest

/-- A UE after the contexts, unless one has no EPS bearer identity -/
def storedTunnels (ue : S11Ue) : List (Option GtpBearerContext) → Option S11Ue
  | [] => none
  | none :: _ => some ue
  | some context :: rest =>
    match context.epsBearerId with
    | none => none
    | some ebi => storedTunnels ((ue.bearerFindByUeEbi ebi).elim ue fun found =>
        ue.updateBearer ebi fun b => { b with
          sgwDl := storedTunnel found.2.sgwDl context.s4USgsnFTeid
          sgwUl := storedTunnel found.2.sgwUl context.s2bUEpdgFTeid5 }) rest

section
variable [MmeCodec] (s : S11Mme)

/-- The UE is connected, its tunnels can be stored, and the source can be told, if they are: the
connection is there, and the UE that it points to. -/
def HandlesIndirectTunnelResponse (mmeUe : MmeUeId) (cause : Bool)
    (bearerContexts : Vector (Option GtpBearerContext) gtpMaxNumOfIndirectTunnel) : Prop :=
  ∃ sourceUe, (s.mmeUes.mem mmeUe).enbUe = some sourceUe ∧ (cause = true →
    StoresTunnels (s.mmeUes.mem mmeUe) bearerContexts.toList ∧
    ∀ ue, storedTunnels (s.mmeUes.mem mmeUe) bearerContexts.toList = some ue →
      s.enbUes.live sourceUe = true ∧
      ∃ owner, (s.enbUes.mem sourceUe).mmeUe = some owner ∧ s.mmeUes.live owner = true ∧
        MmeCodec.s1apEncodes (.handoverCommand (s.ids sourceUe)
          (s.enbUes.mem sourceUe).handoverType
          (forwardedERabs ((s.putMmeUe mmeUe ue).mmeUes.mem owner))
          ((s.putMmeUe mmeUe ue).mmeUes.mem owner).container) = true)

/-! ### All messages -/

/-- The message meets the condition of its handler. -/
def Handles [OgsConv] [Ogslib] (mmeUe : MmeUeId) (xact : Nat) : MmeS11Message → Prop
  | .createSessionResponse sender paa pco context =>
    s.HandlesCreateSessionResponse mmeUe sender paa pco context
  | .modifyBearerResponse => s.HandlesModifyBearerResponse mmeUe
  | .deleteSessionResponse sess cause => s.HandlesDeleteSessionResponse mmeUe sess cause
  | .createBearerRequest slot linkedEbi context =>
    s.HandlesCreateBearerRequest mmeUe xact slot linkedEbi context
  | .updateBearerRequest context => s.HandlesUpdateBearerRequest mmeUe context
  | .deleteBearerRequest linkedEbi ebi => s.HandlesDeleteBearerRequest mmeUe linkedEbi ebi
  | .releaseAccessBearersResponse cause => s.HandlesReleaseAccessBearersResponse mmeUe cause
  | .downlinkDataNotification => True
  | .createIndirectDataForwardingTunnelResponse cause contexts =>
    s.HandlesIndirectTunnelResponse mmeUe cause contexts
  | .deleteIndirectDataForwardingTunnelResponse _ => True

end
end S11Mme

/-! ## Runs -/

/-- A message from the SGW for a UE, or anything else that changes the state -/
inductive S11Step
  | message (mmeUe : MmeUeId) (xact : Nat) (message : MmeS11Message)
  | other (f : S11Mme → S11Mme)

namespace S11Mme
section
variable [Ogslib] [OgsConv] [OgsCrypt] [MmeCodec] (s : S11Mme)

def s11Step : S11Step → MmeM S11Mme
  | .message mmeUe xact message => s.s11Handle mmeUe xact message
  | .other f => .ok (f s)

/-- A run, as long as nothing is asserted that does not hold. -/
def s11Run (steps : List S11Step) : MmeM S11Mme := steps.foldlM s11Step s

omit [OgsCrypt] in
/-- A message is one that is handled. -/
def Allows : S11Step → Prop
  | .message mmeUe xact message => s.Handles mmeUe xact message
  | .other _ => True

end
end S11Mme

/-! ## Requests and responses with information elements -/

namespace S11Ue
variable {ue : S11Ue} {sess : S11Sess}

@[simp] theorem protects_putSess : (ue.putSess sess).Protects ↔ ue.Protects := Iff.rfl

@[simp] theorem enbUe_putSess : (ue.putSess sess).enbUe = ue.enbUe := rfl

end S11Ue

section
variable {β : Type}

theorem returns_gtpFTeidToIp_bind {teid : GtpFTeid} {f : GtpTunnel → MmeM β} :
    Returns (gtpFTeidToIp teid >>= f) ↔ ∃ h : teid.HasAddress, Returns (f (teid.tunnel h)) := by
  unfold gtpFTeidToIp
  by_cases h : teid.HasAddress
  · rw [dif_pos h, ok_bind]
    exact ⟨fun hf => ⟨h, hf⟩, fun hf => hf.2⟩
  · rw [dif_neg h]
    refine iff_of_false (not_returns_error _) ?_
    rintro ⟨h', -⟩
    exact h h'

theorem returns_gtpParseBearerQos_bind [OgsConv] {octet : Bytes} {f : Qos → MmeM β} :
    Returns (gtpParseBearerQos octet >>= f) ↔
      octet.length = gtpBearerQosLen ∧ Returns (f (gtpBearerQosFields octet).qos) := by
  unfold gtpParseBearerQos
  rw [bind_assoc, returns_assert_bind, ok_bind]

theorem returns_storePaa_bind [MmeCodec] {pdn : S11Pdn} {octets : Bytes}
    {f : S11Pdn → MmeM β} : Returns (pdn.storePaa octets >>= f) ↔
      octets.length ≤ MmeCodec.paaSize ∧
        Returns (f { pdn with paa := octets ++ pdn.paa.drop octets.length }) := by
  unfold S11Pdn.storePaa
  by_cases hle : octets.length ≤ MmeCodec.paaSize
  · rw [if_pos hle, ok_bind, and_iff_right hle]
  · rw [if_neg hle]
    exact iff_of_false (not_returns_error _) fun h => hle h.1

end

namespace S11Mme
section
variable [OgsCrypt] [MmeCodec] {s : S11Mme} {mmeUe : MmeUeId} {ue ue' : S11Ue} {sess : S11Sess}

theorem returns_createSessionAccept :
    Returns (s.createSessionAccept mmeUe ue sess) ↔ s.AcceptsSession ue sess := by
  unfold createSessionAccept AcceptsSession
  cases ue.sm with
  | initialContextSetup =>
    cases hcsmap : s.csmaps ue.tai with
    | some csmap => simp
    | none => simp [returns_nasSendAttachAccept]
  | registered => exact returns_activateDefault
  | _ => simp

theorem returns_handleCreateSessionResponse {senderFTeid : Option GtpFTeid}
    {pdnAddressAllocation pco : Option Bytes} {bearerContextsCreated : Option GtpBearerContext} :
    Returns (s.handleCreateSessionResponse mmeUe senderFTeid pdnAddressAllocation pco
      bearerContextsCreated) ↔
    s.HandlesCreateSessionResponse mmeUe senderFTeid pdnAddressAllocation pco
      bearerContextsCreated := by
  unfold handleCreateSessionResponse HandlesCreateSessionResponse
  split
  · rename_i sgwS11Teid paa context
    obtain ⟨epsBearerId, s1UEnodebFTeid, -, -, -, -⟩ := context
    cases s1UEnodebFTeid with
    | none => simp
    | some sgwS1uTeid =>
      cases epsBearerId with
      | none => simp
      | some ebi =>
        simp only [returns_assertSome_bind, returns_storePaa_bind, returns_gtpFTeidToIp_bind,
          returns_createSessionAccept, Prod.exists]
        constructor
        · rintro ⟨sess, bearer, hfound, pdn, hpdn, hle, haddress, h⟩
          exact ⟨sess, bearer, pdn, hfound, hpdn, hle, haddress, h⟩
        · rintro ⟨sess, bearer, pdn, hfound, hpdn, hle, haddress, h⟩
          exact ⟨sess, bearer, hfound, pdn, hpdn, hle, haddress, h⟩
  · simp

omit [OgsCrypt] in
theorem returns_completeHandover :
    Returns (s.completeHandover mmeUe) ↔ s.CompletesHandover (s.mmeUes.mem mmeUe) := by
  unfold completeHandover CompletesHandover
  simp only [returns_assertSome_bind, returns_useEnbUe_bind]
  constructor
  · rintro ⟨targetUe, htarget, hlive, sourceUe, hsource, h⟩
    exact ⟨targetUe, sourceUe, htarget, hlive, hsource, (returns_releaseCommand (by decide)).mp h⟩
  · rintro ⟨targetUe, sourceUe, htarget, hlive, hsource, h⟩
    exact ⟨targetUe, htarget, hlive, sourceUe, hsource, (returns_releaseCommand (by decide)).mpr h⟩

omit [OgsCrypt] in
/-- Whether a handover can be completed is a matter of the connections. -/
theorem completesHandover_congr {s' : S11Mme} (h : s'.enbUes = s.enbUes)
    (henbUe : ue'.enbUe = ue.enbUe) : s'.CompletesHandover ue' ↔ s.CompletesHandover ue := by
  unfold CompletesHandover
  simp only [h, henbUe, releases_congr h]

omit [OgsCrypt] in
/-- An acknowledgement leaves UEs and connections. -/
theorem pathSwitchAck_ok {s' : S11Mme} (h : s.s1apSendPathSwitchAck mmeUe = .ok s') :
    s'.mmeUes = s.mmeUes ∧ s'.enbUes = s.enbUes := by
  obtain ⟨enbUe, -, h⟩ := bind_eq_ok.mp h
  obtain ⟨_, -, h⟩ := bind_eq_ok.mp h
  obtain ⟨_, -, h⟩ := bind_eq_ok.mp h
  cases h
  exact ⟨rfl, rfl⟩

omit [OgsCrypt] in
theorem returns_handleModifyBearerResponse :
    Returns (s.handleModifyBearerResponse mmeUe) ↔ s.HandlesModifyBearerResponse mmeUe := by
  unfold handleModifyBearerResponse HandlesModifyBearerResponse
  simp only []
  set counted := s.putMmeUe mmeUe { s.mmeUes.mem mmeUe with
    pathSwitchCounter := (s.mmeUes.mem mmeUe).pathSwitchCounter.check.1
    handoverNotifyCounter := (s.mmeUes.mem mmeUe).handoverNotifyCounter.check.1 } with hcounted
  have hmem : counted.mmeUes.mem mmeUe = { s.mmeUes.mem mmeUe with
      pathSwitchCounter := (s.mmeUes.mem mmeUe).pathSwitchCounter.check.1
      handoverNotifyCounter := (s.mmeUes.mem mmeUe).handoverNotifyCounter.check.1 } := by
    simp [hcounted, putMmeUe]
  have hrest {s' : S11Mme} (hmmeUes : s'.mmeUes = counted.mmeUes)
      (henbUes : s'.enbUes = s.enbUes) :
      Returns (if (s.mmeUes.mem mmeUe).handoverNotifyCounter.check.2 = true then
        s'.completeHandover mmeUe else .ok s') ↔
      ((s.mmeUes.mem mmeUe).handoverNotifyCounter.check.2 = true →
        s.CompletesHandover (s.mmeUes.mem mmeUe)) := by
    rw [returns_ite, returns_completeHandover, hmmeUes, hmem]
    simp only [returns_ok, implies_true, and_true]
    exact imp_congr_right fun _ => completesHandover_congr henbUes rfl
  cases (s.mmeUes.mem mmeUe).pathSwitchCounter.check.2 with
  | false =>
    simp only [Bool.false_eq_true, if_false, false_implies, true_and]
    exact hrest rfl rfl
  | true =>
    simp only [if_true, forall_const]
    rw [returns_bind_iff, returns_pathSwitchAck, hmem]
    · exact Iff.rfl
    · intro s' hs'
      obtain ⟨hmmeUes, henbUes⟩ := pathSwitchAck_ok hs'
      exact hrest hmmeUes henbUes

theorem returns_handleDeleteBearerRequest {xact : Nat} {linkedEbi ebi : Option UInt8} :
    Returns (s.handleDeleteBearerRequest mmeUe xact linkedEbi ebi) ↔
      s.HandlesDeleteBearerRequest mmeUe linkedEbi ebi := by
  unfold handleDeleteBearerRequest HandlesDeleteBearerRequest
  cases linkedEbi <|> ebi with
  | none => simp
  | some ebi =>
    simp only [returns_assertSome_bind, returns_assert_bind, returns_deactivateBearer, Prod.exists,
      Option.some.injEq, forall_eq']
    rfl

theorem returns_handleUpdateBearerRequest [OgsConv] {xact : Nat}
    {context : Option GtpBearerContext} :
    Returns (s.handleUpdateBearerRequest mmeUe xact context) ↔
      s.HandlesUpdateBearerRequest mmeUe context := by
  unfold handleUpdateBearerRequest HandlesUpdateBearerRequest
  cases context with
  | none => simp
  | some context =>
    obtain ⟨epsBearerId, -, -, -, bearerLevelQos, tft⟩ := context
    cases epsBearerId with
    | none => simp
    | some ebi =>
      simp only [returns_assertSome_bind, returns_assert_bind, Prod.exists, Option.some.injEq,
        forall_eq']
      refine exists_congr fun sess => exists_congr fun bearer => ?_
      refine and_congr_right fun _ => and_congr_right fun _ => ?_
      cases bearerLevelQos with
      | none =>
        cases tft with
        | none => simp [requestedQos]
        | some tft => simp [requestedQos, returns_modifyBearer]
      | some octet =>
        rw [requestedQos, returns_gtpParseBearerQos_bind]
        cases tft with
        | none => simp [returns_modifyBearer]
        | some tft => simp [returns_modifyBearer]

omit [OgsCrypt] in
theorem returns_handleReleaseAccessBearersResponse {cause : Bool} :
    Returns (s.handleReleaseAccessBearersResponse mmeUe cause) ↔
      s.HandlesReleaseAccessBearersResponse mmeUe cause := by
  unfold handleReleaseAccessBearersResponse HandlesReleaseAccessBearersResponse
  cases cause with
  | false => simp
  | true =>
    simp only [Bool.true_eq_false, if_false, forall_const]
    cases (s.mmeUes.mem mmeUe).enbUe with
    | none => simp
    | some enbUe =>
      simp only [Option.some.injEq, forall_eq']
      rw [returns_releaseCommand (by decide)]
      exact releases_congr rfl

omit [OgsCrypt] in
theorem returns_releaseLastSession :
    Returns (s.releaseLastSession mmeUe) ↔ s.ReleasesLast (s.mmeUes.mem mmeUe) := by
  unfold releaseLastSession ReleasesLast
  simp only [returns_ite, returns_ok, implies_true, and_true]
  cases (s.mmeUes.mem mmeUe).enbUe with
  | none => simp
  | some enbUe =>
    simp only [Option.some.injEq, forall_eq']
    rw [returns_releaseCommand (by decide)]

theorem returns_handleDeleteSessionResponse {sess : Option (MmeUeId × MmeSessId)} {cause : Bool} :
    Returns (s.handleDeleteSessionResponse mmeUe sess cause) ↔
      s.HandlesDeleteSessionResponse mmeUe sess cause := by
  unfold handleDeleteSessionResponse HandlesDeleteSessionResponse
  rw [returns_assertSome_bind, Prod.exists]
  refine exists_congr fun owner => exists_congr fun id => ?_
  simp only []
  cases hfound : (s.mmeUes.mem owner).sessList.find? (fun sess => sess.id = id) with
  | none => simp
  | some sess' =>
    simp only [exists_and_left, Option.some.injEq, exists_eq_left']
    refine and_congr_right fun _ => ?_
    cases cause with
    | false => simp
    | true =>
      simp only [Bool.true_eq_false, if_false, forall_const]
      have hrelease : Returns (s.releaseLastSession mmeUe >>= fun s' =>
          (.ok (s'.cleanupSession mmeUe owner id) : MmeM S11Mme)) ↔
          s.ReleasesLast (s.mmeUes.mem mmeUe) := by
        rw [returns_then_ok, returns_releaseLastSession]
      cases (s.mmeUes.mem mmeUe).sm with
      | authentication => simp [returns_ite]
      | deRegistered =>
        by_cases hlast : (s.mmeUes.mem mmeUe).sessList.length = 1
        · simp only [hlast, if_true, forall_const]
          rw [returns_then_ok, returns_nasSendDetachAccept]
        · simp [hlast]
      | registered =>
        rw [returns_assertSome_bind]
        refine exists_congr fun bearer => and_congr_right fun _ => ?_
        cases bearer.sm with
        | pdnWillDisconnect => simp only [returns_then_ok, returns_deactivateBearer]
        | active => exact hrelease
        | inactive => exact hrelease
        | _ => simp
      | initialContextSetup => exact hrelease
      | exception => exact hrelease
      | securityMode => simp

end

/-! ## Create Bearer Request -/

section
variable {ue : S11Ue} {sess : S11Sess}

@[simp] theorem putBearer_eq_nil {bearer : S11Bearer} :
    (sess.putBearer bearer).bearerList = [] ↔ sess.bearerList = [] := by
  unfold S11Sess.putBearer
  cases sess.bearerList with
  | nil => simp [S1MmeUe.updateFirst]
  | cons first rest =>
    rw [S1MmeUe.updateFirst]
    split
    · simp
    · simp

/-- A bearer that was added last is not active, and the session of another has its default bearer
as before. -/
theorem defaultBearer_added {new added : S11Bearer} (hne : sess.bearerList ≠ [])
    (hid : new.id = added.id) (hsm : added.sm = .inactive) {p : Prop} :
    (∃ default, ({ sess with bearerList := sess.bearerList ++ [new] }.putBearer
        added).defaultBearer = some default ∧ (Activated default → p)) ↔
      ∀ default, sess.defaultBearer = some default → default.id ≠ new.id → Activated default →
        p := by
  obtain ⟨first, rest, hlist⟩ := List.exists_cons_of_ne_nil hne
  have hadded : ¬Activated added := by
    intro h
    rw [Activated, hsm] at h
    cases h.1
  unfold S11Sess.defaultBearer S11Sess.putBearer
  rw [hlist, List.cons_append, S1MmeUe.updateFirst]
  by_cases hfirst : first.id = added.id
  · simp [hfirst, hid, hadded]
  · simp [hfirst, hid]

theorem returns_bearerAdd_bind [Ogslib] {β : Type} {slot : Option S11Bearer}
    {f : S11Ue × S11Sess × S11Bearer → MmeM β} :
    Returns (ue.bearerAdd sess slot >>= f) ↔ ∃ unused, slot = some unused ∧
      Returns (f (let bearer := { unused with ebi := nextEbi ue.ebi, sm := .inactive }
        let sess := { sess with bearerList := sess.bearerList ++ [bearer] }
        ({ ue with ebi := nextEbi ue.ebi }.putSess sess, sess, bearer))) := by
  unfold S11Ue.bearerAdd
  rw [bind_assoc, returns_assertSome_bind]
  rfl

/-- The session of a bearer that is found has bearers. -/
theorem bearerList_ne_nil {ebi : UInt8} {bearer : S11Bearer}
    (h : ue.bearerFindByUeEbi ebi = some (sess, bearer)) : sess.bearerList ≠ [] := by
  obtain ⟨sess', -, h⟩ := List.exists_of_findSome?_eq_some h
  obtain ⟨bearer', hbearer', h⟩ := Option.map_eq_some_iff.mp h
  cases h
  exact List.ne_nil_of_mem (List.mem_of_find?_eq_some hbearer')

theorem returns_handleCreateBearerRequest [OgsConv] [Ogslib] [OgsCrypt] [MmeCodec] {s : S11Mme}
    {mmeUe : MmeUeId} {xact : Nat} {slot : Option S11Bearer}
    {linkedEbi : Option UInt8} {context : Option GtpBearerContext} :
    Returns (s.handleCreateBearerRequest mmeUe xact slot linkedEbi context) ↔
      s.HandlesCreateBearerRequest mmeUe xact slot linkedEbi context := by
  unfold handleCreateBearerRequest HandlesCreateBearerRequest
  split
  · rename_i linkedEbi context
    obtain ⟨epsBearerId, s1UEnodebFTeid, -, -, bearerLevelQos, tft⟩ := context
    simp only []
    split
    · rename_i sgwS1uTeid octet tft
      simp only [returns_assertSome_bind, returns_bearerAdd_bind, returns_gtpFTeidToIp_bind,
        returns_gtpParseBearerQos_bind, returns_ite, returns_ok, implies_true, and_true,
        returns_activateDedicated, Prod.exists]
      refine exists_congr fun sess => exists_congr fun linked => and_congr_right fun hfound => ?_
      refine exists_congr fun unused => and_congr_right fun _ => exists_congr fun h => ?_
      refine and_congr_right fun _ => ?_
      rw [defaultBearer_added (bearerList_ne_nil hfound) (by rfl) (by rfl)]
      refine forall_congr' fun default => imp_congr_right fun _ => imp_congr_right fun _ =>
        imp_congr_right fun _ => ?_
      rw [and_iff_right (by simp)]
      exact Iff.rfl
    · simp
  · simp

end

/-! ## Indirect tunnels -/

section
variable {ue ue' : S11Ue} {l : List (Option GtpBearerContext)}

theorem returns_storeTunnel_bind {β : Type} {tunnel : GtpTunnel} {teid : Option GtpFTeid}
    {f : GtpTunnel → MmeM β} : Returns (storeTunnel tunnel teid >>= f) ↔
      StoresTunnel teid ∧ Returns (f (storedTunnel tunnel teid)) := by
  unfold storeTunnel StoresTunnel storedTunnel
  cases teid with
  | none => simp
  | some teid =>
    rw [returns_gtpFTeidToIp_bind]
    by_cases h : teid.HasAddress
    · simp [h]
    · simp [h]

theorem storeTunnel_ok {tunnel stored : GtpTunnel} {teid : Option GtpFTeid}
    (h : storeTunnel tunnel teid = .ok stored) : stored = storedTunnel tunnel teid := by
  unfold storeTunnel at h
  unfold storedTunnel
  cases teid with
  | none =>
    cases h
    rfl
  | some teid =>
    simp only [gtpFTeidToIp] at h
    split at h
    · rename_i haddress
      cases h
      simp [haddress]
    · cases h

/-- Whether a bearer is found is a matter of the identities. -/
theorem isSome_bearerFindByUeEbi {ebi : UInt8} : (ue.bearerFindByUeEbi ebi).isSome = true ↔
    ebi ∈ (ue.sessList.map fun sess => sess.bearerList.map S11Bearer.ebi).flatten := by
  unfold S11Ue.bearerFindByUeEbi
  rw [List.findSome?_isSome_iff]
  simp

theorem map_ebi_updateBearer {ebi : UInt8} {f : S11Bearer → S11Bearer}
    (hf : ∀ bearer, (f bearer).ebi = bearer.ebi) :
    ((ue.updateBearer ebi f).sessList.map fun sess => sess.bearerList.map S11Bearer.ebi) =
      ue.sessList.map fun sess => sess.bearerList.map S11Bearer.ebi :=
  S1MmeUe.map_updateFirst fun _ => S1MmeUe.map_updateFirst hf

theorem storesTunnels_congr
    (h : (ue'.sessList.map fun sess => sess.bearerList.map S11Bearer.ebi) =
      ue.sessList.map fun sess => sess.bearerList.map S11Bearer.ebi) :
    StoresTunnels ue' l ↔ StoresTunnels ue l := by
  induction l with
  | nil => exact Iff.rfl
  | cons context rest ih =>
    cases context with
    | none => exact Iff.rfl
    | some context =>
      unfold StoresTunnels
      simp only [isSome_bearerFindByUeEbi, h, ih]

/-- The induction is on the contexts, with the UE as it is after those before. -/
theorem storeTunnels_ok (ue : S11Ue) (l : List (Option GtpBearerContext)) :
    (Returns (storeTunnels ue l) ↔ StoresTunnels ue l) ∧
      ∀ r, storeTunnels ue l = .ok r → storedTunnels ue l = if r.2 then some r.1 else none := by
  induction l generalizing ue with
  | nil =>
    refine ⟨iff_of_false (not_returns_error _) id, fun r hr => ?_⟩
    cases hr
  | cons context rest ih =>
    cases context with
    | none =>
      refine ⟨iff_of_true ⟨_, rfl⟩ trivial, fun r hr => ?_⟩
      cases hr
      rfl
    | some context =>
      unfold storeTunnels StoresTunnels storedTunnels
      cases context.epsBearerId with
      | none =>
        refine ⟨iff_of_true ⟨_, rfl⟩ trivial, fun r hr => ?_⟩
        cases hr
        rfl
      | some ebi =>
        simp only []
        cases hfound : ue.bearerFindByUeEbi ebi with
        | none =>
          refine ⟨iff_of_false (by simp) (by simp), fun r hr => ?_⟩
          cases hr
        | some found =>
          obtain ⟨sess, bearer⟩ := found
          rw [assertSome_some, ok_bind, Option.elim_some]
          constructor
          · rw [returns_storeTunnel_bind, returns_storeTunnel_bind, (ih _).1,
              storesTunnels_congr (map_ebi_updateBearer (by exact fun _ => rfl))]
            simp
          · intro r hr
            obtain ⟨sgwDl, hsgwDl, hr⟩ := bind_eq_ok.mp hr
            obtain ⟨sgwUl, hsgwUl, hr⟩ := bind_eq_ok.mp hr
            obtain rfl := storeTunnel_ok hsgwDl
            obtain rfl := storeTunnel_ok hsgwUl
            exact (ih _).2 r hr

theorem returns_handleIndirectTunnelResponse [OgsCrypt] [MmeCodec] {s : S11Mme} {mmeUe : MmeUeId}
    {cause : Bool} {contexts : Vector (Option GtpBearerContext) gtpMaxNumOfIndirectTunnel} :
    Returns (s.handleCreateIndirectDataForwardingTunnelResponse mmeUe cause contexts) ↔
      s.HandlesIndirectTunnelResponse mmeUe cause contexts := by
  unfold handleCreateIndirectDataForwardingTunnelResponse HandlesIndirectTunnelResponse
  rw [returns_assertSome_bind]
  refine exists_congr fun sourceUe => and_congr_right fun _ => ?_
  cases cause with
  | false => simp
  | true =>
    obtain ⟨hreturns, hstored⟩ := storeTunnels_ok (s.mmeUes.mem mmeUe) contexts.toList
    simp only [Bool.true_eq_false, if_false, forall_const]
    rw [returns_bind_iff, hreturns]
    intro r hr
    obtain ⟨ue, complete⟩ := r
    rw [hstored _ hr]
    cases complete with
    | false => simp
    | true =>
      simp only [if_true, Option.some.injEq, forall_eq']
      exact returns_handoverCommand

end

/-! ## All messages -/

section
variable [Ogslib] [OgsConv] [OgsCrypt] [MmeCodec] {s : S11Mme}

theorem returns_s11Handle {mmeUe : MmeUeId} {xact : Nat} (message : MmeS11Message) :
    Returns (s.s11Handle mmeUe xact message) ↔ s.Handles mmeUe xact message := by
  cases message with
  | createSessionResponse => exact returns_handleCreateSessionResponse
  | modifyBearerResponse => exact returns_handleModifyBearerResponse
  | deleteSessionResponse => exact returns_handleDeleteSessionResponse
  | createBearerRequest => exact returns_handleCreateBearerRequest
  | updateBearerRequest => exact returns_handleUpdateBearerRequest
  | deleteBearerRequest => exact returns_handleDeleteBearerRequest
  | releaseAccessBearersResponse => exact returns_handleReleaseAccessBearersResponse
  | downlinkDataNotification => exact iff_of_true ⟨_, rfl⟩ trivial
  | createIndirectDataForwardingTunnelResponse => exact returns_handleIndirectTunnelResponse
  | deleteIndirectDataForwardingTunnelResponse => exact iff_of_true ⟨_, rfl⟩ trivial

theorem returns_s11Step (step : S11Step) : Returns (s.s11Step step) ↔ s.Allows step := by
  cases step with
  | message mmeUe xact message => exact returns_s11Handle message
  | other f => exact iff_of_true ⟨_, rfl⟩ trivial

/-- A run returns exactly if every message is handled in the state in which it arrives. -/
theorem returns_s11Run_iff (s : S11Mme) (steps : List S11Step) : Returns (s.s11Run steps) ↔
    ∀ before step after s', steps = before ++ step :: after → s.s11Run before = .ok s' →
      s'.Allows step :=
  returns_foldlM fun _ step => returns_s11Step step

end

attribute [local instance] Ogslib.reference OgsConv.reference OgsCrypt.reference
  MmeCodec.reference in
/-- The SGW asks for a change of a bearer that the UE does not have. -/
theorem not_returns_updateUnknownBearer : ¬Returns (sampleS11.s11Run [.message 0 0
    (.updateBearerRequest (some ⟨some 9, none, none, none, none, some [0x21]⟩))]) := by
  have hfault : sampleS11.s11Run [.message 0 0
      (.updateBearerRequest (some ⟨some 9, none, none, none, none, some [0x21]⟩))] =
        .error (.assert .s11Handler) := rfl
  rw [hfault]
  exact not_returns_error _

end S11Mme

end NextEpc

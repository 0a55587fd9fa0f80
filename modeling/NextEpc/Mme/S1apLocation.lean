import NextEpc.Mme.S1apIsolation

/-!
# The location of a UE

Three messages say where a UE is. The location is stored for the S1 connection and, if the UE has
moved, for the UE, from where the requests to the SGW take it. The handlers of the two messages for
a UE that has moved have one variable for both PLMN identities.
-/

namespace NextEpc

open Fallible Octets

namespace S1Mme

/-! ## Locations that stay -/

/-- No location is changed. -/
structure LocationsKept (s t : S1Mme) : Prop where
  saved : ∀ enbUe, (t.enbUes.mem enbUe).saved = (s.enbUes.mem enbUe).saved
  location : ∀ mmeUe, (t.mmeUes.mem mmeUe).location = (s.mmeUes.mem mmeUe).location

section
variable {s t : S1Mme} {enbUe : EnbUeId} {mmeUe : MmeUeId}

theorem LocationsKept.refl (s : S1Mme) : LocationsKept s s := ⟨fun _ => rfl, fun _ => rfl⟩

theorem LocationsKept.send (h : LocationsKept s t) (sent : S1Sent) :
    LocationsKept s (t.send sent) := ⟨h.saved, h.location⟩

theorem LocationsKept.push (h : LocationsKept s t) (taken : Bool) (event : S1NasEvent) :
    LocationsKept s (t.push taken event) := by
  rw [S1Mme.push]
  split
  · exact ⟨h.saved, h.location⟩
  · exact h

theorem LocationsKept.modifyMmeUe (h : LocationsKept s t) {f : S1MmeUe → S1MmeUe}
    (hf : ∀ ue, (f ue).location = ue.location) : LocationsKept s (t.modifyMmeUe mmeUe f) := by
  refine ⟨h.saved, fun u => ?_⟩
  exact (Pool.apply_mem_modify (g := S1MmeUe.location) hf).trans (h.location u)

theorem LocationsKept.pathSwitchErab (h : LocationsKept s t) (erab : S1apErab) :
    Ensures (t.pathSwitchErab mmeUe erab) (LocationsKept s) := by
  apply ensures_bind
  intro _ _
  apply ensures_bind
  intro r hr
  apply ensures_ok
  have hset : Ensures (t.setEnbS1u mmeUe erab) (LocationsKept s) := by
    apply ensures_bind
    intro _ _
    apply ensures_bind
    intro ip _
    apply ensures_ok
    exact h.modifyMmeUe fun _ => rfl
  apply LocationsKept.send
  exact (hset r hr).modifyMmeUe fun _ => rfl

theorem LocationsKept.notifyBearers (h : LocationsKept s t) (mmeUe : MmeUeId) :
    LocationsKept s (t.notifyBearers mmeUe) := by
  apply List.foldlRecOn
  · exact h.modifyMmeUe fun _ => rfl
  · intro r hr bearer _
    apply LocationsKept.send
    exact hr.modifyMmeUe fun _ => rfl

theorem LocationsKept.enbUeSwitchToEnb (h : LocationsKept s t) (enb : MmeEnbId) :
    LocationsKept s (t.enbUeSwitchToEnb enbUe enb) := by
  refine ⟨fun x => ?_, h.location⟩
  have hsame : ∀ e : S1EnbUe, ({ e with enb := enb } : S1EnbUe).saved = e.saved := fun _ => rfl
  exact (Pool.apply_mem_modify (g := S1EnbUe.saved) hsame).trans (h.saved x)

theorem LocationsKept.sendToNas [OgsCrypt] (h : LocationsKept s t) (taken : Bool)
    (enbUe : EnbUeId) (s1apCode : S1apProcedureCode) (nasPdu : Option Bytes) :
    Ensures (t.s1apSendToNas taken enbUe s1apCode nasPdu) (LocationsKept s) := by
  apply ensures_assertSome
  intro pdu _
  apply ensures_bind
  intro _ _
  apply ensures_assertSome
  intro stripped _
  have hdecoded : Ensures (t.nasSecurityDecode enbUe stripped.1 stripped.2)
      fun r => LocationsKept s r.1 := by
    unfold S1Mme.nasSecurityDecode
    split
    · apply ensures_bind
      intro decoded _
      apply ensures_assert
      intro _
      apply ensures_ok
      exact h.modifyMmeUe fun _ => rfl
    · exact ensures_ok h
  refine hdecoded.bind ?_
  intro r hr
  apply ensures_assertSome
  intro first _
  apply ensures_ite
  · exact fun _ => ensures_ok (hr.push taken _)
  · intro _
    apply ensures_ite
    · intro _
      apply ensures_assertSome
      exact fun u _ => ensures_ok (hr.push taken _)
    · exact fun _ => ensures_error _

end

/-! ## The location of a message -/

/-- The TAI and the EUTRAN-CGI of a message, field by field -/
def messageLocation (tai : S1apTai) (cgi : S1apEutranCgi) : UserLocation :=
  ⟨⟨tai.pLMNidentity, value tai.tAC⟩, ⟨cgi.pLMNidentity, cgi.cellIdValue⟩⟩

/-- The location is stored for the connection that the message is about and, where the UE has moved,
for the UE of the connection. -/
def LocationStored [Ogslib] [OgsCrypt] (s : S1Mme) (env : S1apEnv) (enb : MmeEnbId) (ies : S1apIes)
    (location : UserLocation) (t : S1Mme) : S1apProcedure → Prop
  | .initialUeMessage => ∀ enbUeS1apId r enbUe, ies.enbUeS1apId = some enbUeS1apId →
      s.initialUe env enb enbUeS1apId ies.sTmsi = .ok (r, enbUe) →
      (t.enbUes.mem enbUe).saved = location
  | .pathSwitchRequest => ∀ enbUe mmeUe,
      ies.sourceMmeUeS1apId.bind s.enbUeFindByMmeUeS1apId = some enbUe →
      (s.enbUes.mem enbUe).mmeUe = some mmeUe →
      (t.enbUes.mem enbUe).saved = location ∧ (t.mmeUes.mem mmeUe).location = location
  | .handoverNotification => ∀ targetUe sourceUe mmeUe,
      ies.enbUeS1apId.bind (s.enbUeFindByEnbUeS1apId enb) = some targetUe →
      (s.enbUes.mem targetUe).sourceUe = some sourceUe →
      (s.enbUes.mem sourceUe).mmeUe = some mmeUe →
      (t.enbUes.mem targetUe).saved = location ∧ (t.mmeUes.mem mmeUe).location = location
  | _ => True

/-- The message has one PLMN for both identities. A Path Switch Request for a UE without a valid
security context is refused, and stores nothing: the location must be the one that is stored. -/
def LocationAgrees (s : S1Mme) (ies : S1apIes) (tai : S1apTai) (cgi : S1apEutranCgi) :
    S1apProcedure → Prop
  | .pathSwitchRequest => ∀ enbUe mmeUe,
      ies.sourceMmeUeS1apId.bind s.enbUeFindByMmeUeS1apId = some enbUe →
      (s.enbUes.mem enbUe).mmeUe = some mmeUe →
      if (s.mmeUes.mem mmeUe).SecurityContextIsValid then cgi.pLMNidentity = tai.pLMNidentity
      else (s.enbUes.mem enbUe).saved = messageLocation tai cgi ∧
        (s.mmeUes.mem mmeUe).location = messageLocation tai cgi
  | .handoverNotification => cgi.pLMNidentity = tai.pLMNidentity
  | _ => True

section
variable {s t : S1Mme} {enbUe : EnbUeId} {mmeUe : MmeUeId} {tai : S1apTai} {cgi : S1apEutranCgi}
  {location : UserLocation} {env : S1apEnv} {enb : MmeEnbId} {ies : S1apIes}

theorem s1apUserLocation_eq (h : s1apUserLocation tai cgi = .ok location) :
    location = messageLocation tai cgi := by
  unfold s1apUserLocation at h
  simp only [bind_eq_ok, Except.ok.injEq] at h
  obtain ⟨-, -, -, -, -, -, rfl⟩ := h
  rfl

/-- The variable that both identities share has the PLMN of the TAI when it is used. -/
theorem s1apMovedLocation_eq (h : s1apMovedLocation tai cgi = .ok location) :
    location = messageLocation tai { cgi with pLMNidentity := tai.pLMNidentity } := by
  unfold s1apMovedLocation at h
  simp only [bind_eq_ok, Except.ok.injEq] at h
  obtain ⟨saved, hsaved, rfl⟩ := h
  rw [s1apUserLocation_eq hsaved]
  rfl

theorem messageLocation_moved_iff :
    messageLocation tai { cgi with pLMNidentity := tai.pLMNidentity } = messageLocation tai cgi ↔
      cgi.pLMNidentity = tai.pLMNidentity := by
  simp [messageLocation, S1apEutranCgi.cellIdValue, eq_comm]

/-- Where a Handover Notify has put the location -/
theorem handoverNotification_location (htai : ies.tai = some tai) (hcgi : ies.eutranCgi = some cgi)
    (h : s.s1apHandleHandoverNotification enb ies = .ok t) :
    ∃ targetUe sourceUe mmeUe,
      ies.enbUeS1apId.bind (s.enbUeFindByEnbUeS1apId enb) = some targetUe ∧
      (s.enbUes.mem targetUe).sourceUe = some sourceUe ∧
      (s.enbUes.mem sourceUe).mmeUe = some mmeUe ∧
      (t.enbUes.mem targetUe).saved =
        messageLocation tai { cgi with pLMNidentity := tai.pLMNidentity } ∧
      (t.mmeUes.mem mmeUe).location =
        messageLocation tai { cgi with pLMNidentity := tai.pLMNidentity } := by
  unfold s1apHandleHandoverNotification assertBoth assertEnbUe assertMmeUe at h
  simp only [htai, hcgi, assertSome_some, ok_bind, bind_eq_ok, assertSome_eq_ok,
    Except.ok.injEq] at h
  obtain ⟨location, hlocation, _, ⟨-, -, targetUe, ⟨id, hid, hfind⟩, -, -, rfl⟩, sourceUe, hsource,
    mmeUe, hmmeUe, rfl⟩ := h
  refine ⟨targetUe, sourceUe, mmeUe, by rw [hid]; exact hfind, hsource, hmmeUe, ?_⟩
  have hkept := (LocationsKept.refl (((s.mmeUeAssociateEnbUe mmeUe targetUe).modifyEnbUe targetUe
    fun e => { e with saved := location }).modifyMmeUe mmeUe
      fun ue => { ue with location := location })).notifyBearers mmeUe
  rw [hkept.saved, hkept.location, ← s1apMovedLocation_eq hlocation]
  simp [modifyEnbUe, modifyMmeUe]

variable [OgsCrypt]

theorem initialUeMessage_saved [Ogslib] (htai : ies.tai = some tai)
    (hcgi : ies.eutranCgi = some cgi) (h : s.s1apHandleInitialUeMessage env enb ies = .ok t) :
    s.LocationStored env enb ies (messageLocation tai cgi) t .initialUeMessage := by
  intro enbUeS1apId r enbUe hid hinitial
  unfold s1apHandleInitialUeMessage at h
  simp only [hid, htai, hcgi, assertSome_some, ok_bind, hinitial, bind_eq_ok] at h
  obtain ⟨saved, hsaved, h⟩ := h
  have hkept := (LocationsKept.refl _).sendToNas env.taken enbUe .initialUeMessage ies.nasPdu t h
  rw [hkept.saved, modifyEnbUe, Pool.mem_modify, if_pos rfl]
  exact s1apUserLocation_eq hsaved

theorem handoverNotification_stored_iff [Ogslib] (htai : ies.tai = some tai)
    (hcgi : ies.eutranCgi = some cgi) (h : s.s1apHandleHandoverNotification enb ies = .ok t) :
    s.LocationStored env enb ies (messageLocation tai cgi) t .handoverNotification ↔
      cgi.pLMNidentity = tai.pLMNidentity := by
  obtain ⟨targetUe, sourceUe, mmeUe, hfind, hsource, hmmeUe, hsaved, hlocation⟩ :=
    handoverNotification_location htai hcgi h
  rw [← messageLocation_moved_iff]
  constructor
  · intro hstored
    rw [← hsaved]
    exact (hstored targetUe sourceUe mmeUe hfind hsource hmmeUe).1
  · intro heq targetUe' sourceUe' mmeUe' hfind' hsource' hmmeUe'
    obtain rfl := Option.some.inj (hfind.symm.trans hfind')
    obtain rfl := Option.some.inj (hsource.symm.trans hsource')
    obtain rfl := Option.some.inj (hmmeUe.symm.trans hmmeUe')
    exact ⟨hsaved.trans heq, hlocation.trans heq⟩

/-- What a Path Switch Request stores: the location if it is accepted, and otherwise nothing -/
theorem pathSwitchRequest_location (htai : ies.tai = some tai) (hcgi : ies.eutranCgi = some cgi)
    (hfind : ies.sourceMmeUeS1apId.bind s.enbUeFindByMmeUeS1apId = some enbUe)
    (hmmeUe : (s.enbUes.mem enbUe).mmeUe = some mmeUe)
    (h : s.s1apHandlePathSwitchRequest enb ies = .ok t) :
    if (s.mmeUes.mem mmeUe).SecurityContextIsValid then
      (t.enbUes.mem enbUe).saved =
          messageLocation tai { cgi with pLMNidentity := tai.pLMNidentity } ∧
        (t.mmeUes.mem mmeUe).location =
          messageLocation tai { cgi with pLMNidentity := tai.pLMNidentity }
    else LocationsKept s t := by
  obtain ⟨mmeUeS1apId, hid, hfind⟩ := Option.bind_eq_some_iff.mp hfind
  unfold s1apHandlePathSwitchRequest assertMmeUe at h
  simp only [htai, hcgi, hid, assertSome_some, ok_bind, bind_eq_ok, assertSome_eq_ok, hfind,
    hmmeUe] at h
  obtain ⟨location, hlocation, capabilities, -, enbUeS1apId, -, h⟩ := h
  split at h
  case isTrue hvalid =>
    rw [if_pos hvalid]
    simp only [bind_eq_ok, assertSome_eq_ok, Except.ok.injEq] at h
    obtain ⟨list, -, r, hr, rfl⟩ := h
    have hswitched := ensures_foldlM (P := LocationsKept _)
      (fun _ hu erab _ => hu.pathSwitchErab erab) (LocationsKept.refl _) r hr
    have hkept : LocationsKept _ (r.enbUeSwitchToEnb enbUe enb) := hswitched.enbUeSwitchToEnb enb
    rw [hkept.saved, hkept.location, ← s1apMovedLocation_eq hlocation]
    simp [modifyEnbUe, modifyMmeUe, pathSwitchUe]
  case isFalse hvalid =>
    rw [if_neg hvalid]
    simp only [Except.ok.injEq] at h
    rw [← h]
    exact (LocationsKept.refl s).send _

theorem pathSwitchRequest_stored_iff [Ogslib] (htai : ies.tai = some tai)
    (hcgi : ies.eutranCgi = some cgi) (h : s.s1apHandlePathSwitchRequest enb ies = .ok t) :
    s.LocationStored env enb ies (messageLocation tai cgi) t .pathSwitchRequest ↔
      s.LocationAgrees ies tai cgi .pathSwitchRequest := by
  refine forall_congr' fun enbUe => forall_congr' fun mmeUe => forall_congr' fun hfind =>
    forall_congr' fun hmmeUe => ?_
  have hlocation := pathSwitchRequest_location htai hcgi hfind hmmeUe h
  split
  case isTrue hvalid =>
    rw [if_pos hvalid] at hlocation
    rw [hlocation.1, hlocation.2, and_self, messageLocation_moved_iff]
  case isFalse hvalid =>
    rw [if_neg hvalid] at hlocation
    rw [hlocation.saved, hlocation.location]

end

end S1Mme

open S1Mme

/-- The location that a message reports is stored, in every field, if and only if the message is an
Initial UE Message, or its ECGI has the PLMN of its TAI (and, for a Path Switch Request that is
refused, the location is the one stored before). -/
theorem s1ap_location_stored_iff [Ogslib] [OgsCrypt] (s t : S1Mme) (env : S1apEnv) (enb : MmeEnbId)
    (ies : S1apIes) (tai : S1apTai) (cgi : S1apEutranCgi) (procedure : S1apProcedure)
    (htai : ies.tai = some tai) (hcgi : ies.eutranCgi = some cgi)
    (h : s.s1apHandle env enb ies procedure = .ok t) :
    s.LocationStored env enb ies (messageLocation tai cgi) t procedure ↔
      s.LocationAgrees ies tai cgi procedure := by
  cases procedure with
  | initialUeMessage =>
    exact iff_of_true (initialUeMessage_saved htai hcgi h) trivial
  | pathSwitchRequest => exact pathSwitchRequest_stored_iff htai hcgi h
  | handoverNotification => exact handoverNotification_stored_iff htai hcgi h
  | _ => exact Iff.rfl

attribute [local instance] Ogslib.reference

/-- The location in an Initial UE Message is stored. -/
theorem s1ap_location_stored_initial : ∃ t,
    @s1apHandle Ogslib.reference OgsCrypt.reference initial (sampleEnv 1) 1 (sampleIes 5 none)
      .initialUeMessage = .ok t ∧
    @LocationStored Ogslib.reference OgsCrypt.reference initial (sampleEnv 1) 1 (sampleIes 5 none)
      ⟨⟨[0, 0xf1, 0x10], 1⟩, ⟨[0, 0xf1, 0x10], 1⟩⟩ t .initialUeMessage := by
  let _ := OgsCrypt.reference
  obtain ⟨t, ht⟩ : ∃ t, initial.s1apHandle (sampleEnv 1) 1 (sampleIes 5 none) .initialUeMessage =
    .ok t := ⟨_, rfl⟩
  exact ⟨t, ht, (s1ap_location_stored_iff initial t (sampleEnv 1) 1 (sampleIes 5 none) _ _
    .initialUeMessage rfl rfl ht).mpr trivial⟩

/-- The elements of a Handover Notify from a cell whose ECGI has another PLMN than its TAI -/
def notifyIes : S1apIes where
  mmeUeS1apId := some 2
  enbUeS1apId := some 7
  tai := some ⟨[0, 0xf1, 0x10], [0, 2]⟩
  eutranCgi := some ⟨[0x99, 0xf9, 0x07], [0, 0, 0, 0x20]⟩

/-- After a handover the ECGI of the UE has the PLMN of the TAI. -/
theorem s1ap_location_mixed : ∃ q r s t,
    @s1apHandle Ogslib.reference OgsCrypt.reference initial (sampleEnv 1) 1 (sampleIes 5 none)
      .initialUeMessage = .ok q ∧
    (q.mmeUeAdd 1 9 sampleSTmsi).s1apSendHandoverRequest (some 2) 9 3 = .ok r ∧
    r.s1apHandleHandoverRequestAck { notifyIes with
      eRabAdmittedList := some [], targetToSourceTransparentContainer := some [] } = .ok s ∧
    @s1apHandle Ogslib.reference OgsCrypt.reference s (sampleEnv 4) 3 notifyIes
      .handoverNotification = .ok t ∧
    ¬@LocationStored Ogslib.reference OgsCrypt.reference s (sampleEnv 4) 3 notifyIes
      ⟨⟨[0, 0xf1, 0x10], 2⟩, ⟨[0x99, 0xf9, 0x07], 2⟩⟩ t .handoverNotification := by
  let _ := OgsCrypt.reference
  obtain ⟨q, r, s, t, hq, hr, hs, ht, hfind, hsource, hmmeUe, hsaved⟩ : ∃ q r s t,
      initial.s1apHandle (sampleEnv 1) 1 (sampleIes 5 none) .initialUeMessage = .ok q ∧
      (q.mmeUeAdd 1 9 sampleSTmsi).s1apSendHandoverRequest (some 2) 9 3 = .ok r ∧
      r.s1apHandleHandoverRequestAck { notifyIes with
        eRabAdmittedList := some [], targetToSourceTransparentContainer := some [] } = .ok s ∧
      s.s1apHandle (sampleEnv 4) 3 notifyIes .handoverNotification = .ok t ∧
      notifyIes.enbUeS1apId.bind (s.enbUeFindByEnbUeS1apId 3) = some 2 ∧
      (s.enbUes.mem 2).sourceUe = some 1 ∧ (s.enbUes.mem 1).mmeUe = some 9 ∧
      (t.enbUes.mem 2).saved = ⟨⟨[0, 0xf1, 0x10], 2⟩, ⟨[0, 0xf1, 0x10], 2⟩⟩ :=
    ⟨_, _, _, _, rfl, rfl, rfl, rfl, rfl, rfl, rfl, rfl⟩
  refine ⟨q, r, s, t, hq, hr, hs, ht, fun hstored => ?_⟩
  have hlocation := (hstored 2 1 9 hfind hsource hmmeUe).1
  rw [hsaved] at hlocation
  cases hlocation

end NextEpc

import NextEpc.Mme.ModifyBearer
import NextEpc.Mme.S1apIsolation

/-!
# What S1AP messages leave of a UE

Most handlers of S1AP messages write little of a UE: fields beside its bearers, the end points of
its eNB, and sessions that are removed. A relation between records that holds across these writes
holds across the handlers, for every UE. What completes a Path Switch Request or a handover is not
sent by the handlers of S1AP messages.
-/

namespace NextEpc

open Fallible Octets

namespace S1MmeUe

/-! ## The bearers of a UE -/

section
variable {α β : Type} {p : α → Bool} {f : α → α} {g : α → β} {l m : List α}

theorem updateFirst_append : updateFirst p f (l ++ m) =
    if l.any p then updateFirst p f l ++ m else l ++ updateFirst p f m := by
  induction l with
  | nil => rfl
  | cons a l ih =>
    cases ha : p a with
    | true => simp [updateFirst, ha]
    | false =>
      have hcons : ∀ l : List α, updateFirst p f (a :: l) = a :: updateFirst p f l := by
        simp [updateFirst, ha]
      rw [List.cons_append, hcons, ih, hcons, List.any_cons, ha, Bool.false_or]
      split
      · rfl
      · rfl

/-- What a write to other fields leaves. -/
theorem map_updateFirst (hg : ∀ a, g (f a) = g a) : (updateFirst p f l).map g = l.map g := by
  induction l with
  | nil => rfl
  | cons a l ih =>
    rw [updateFirst]
    split
    · rw [List.map_cons, hg, List.map_cons]
    · rw [List.map_cons, ih, List.map_cons]

/-- Where a key tells the elements apart, the first one with it is the only one. -/
theorem updateFirst_eq_map [DecidableEq β] {k : β} (hl : (l.map g).Nodup) :
    updateFirst (fun a => g a = k) f l = l.map fun a => if g a = k then f a else a := by
  induction l with
  | nil => rfl
  | cons a l ih =>
    rw [List.map_cons, List.nodup_cons] at hl
    rw [updateFirst, List.map_cons]
    by_cases ha : g a = k
    · have hrest : l.map (fun b => if g b = k then f b else b) = l.map id := by
        apply List.map_congr_left
        intro b hb
        rw [if_neg, id]
        intro hk
        rw [ha, ← hk] at hl
        exact hl.1 (List.mem_map_of_mem hb)
      simp [ha, hrest]
    · simp [ha, ih hl.2]

end

section
variable {ue : S1MmeUe} {ebi : UInt8} {f : S1Bearer → S1Bearer}

theorem bearers_updateBearer : (ue.updateBearer ebi f).bearers =
    updateFirst (fun bearer => bearer.ebi = ebi) f ue.bearers := by
  change (updateFirst _ _ ue.sessList).flatMap S1Sess.bearerList =
    updateFirst _ _ (ue.sessList.flatMap S1Sess.bearerList)
  induction ue.sessList with
  | nil => rfl
  | cons sess sessList ih =>
    rw [List.flatMap_cons, updateFirst_append, updateFirst]
    split
    · rw [List.flatMap_cons]
    · rw [List.flatMap_cons, ih]

theorem bearers_updateBearers : (ue.updateBearers f).bearers = ue.bearers.map f := by
  simp [updateBearers, bearers, List.flatMap_map, List.map_flatMap]

end

variable {Q : S1MmeUe → S1MmeUe → Prop} {a b : S1MmeUe}

/-! ## Relations across writes -/

/-- The same sessions, bearers and counters -/
structure SameBearers (a b : S1MmeUe) : Prop where
  sessList : b.sessList = a.sessList
  pathSwitchCounter : b.pathSwitchCounter = a.pathSwitchCounter
  handoverNotifyCounter : b.handoverNotifyCounter = a.handoverNotifyCounter

/-- A relation that holds across the writes of most handlers. -/
structure Frame (Q : S1MmeUe → S1MmeUe → Prop) : Prop where
  same : ∀ {a b}, SameBearers a b → Q a b
  trans : ∀ {a b c}, Q a b → Q b c → Q a c
  filter : ∀ a p, Q a { a with sessList := a.sessList.filter p }
  setEnbS1u : ∀ a ebi endPoint,
    Q a (a.updateBearer ebi fun bearer => { bearer with enbS1u := endPoint })
  clearIndirectTunnel : ∀ a : S1MmeUe, Q a a.clearIndirectTunnel

theorem Frame.refl (hQ : Frame Q) (a : S1MmeUe) : Q a a := hQ.same ⟨rfl, rfl, rfl⟩

/-- Some sessions are removed, and fields beside the sessions are written. -/
theorem Frame.removed (hQ : Frame Q) (p : S1Sess → Bool)
    (hsess : b.sessList = a.sessList.filter p) (hpath : b.pathSwitchCounter = a.pathSwitchCounter)
    (hnotify : b.handoverNotifyCounter = a.handoverNotifyCounter) : Q a b :=
  hQ.trans (hQ.filter a p) (hQ.same ⟨hsess, hpath, hnotify⟩)

end S1MmeUe

namespace S1Mme

/-- A message that completes no Path Switch Request and no handover -/
def Quiet (sent : S1Sent) : Prop := sent.isPathSwitchAck = false ∧ sent.isHandoverRelease = false

/-- More messages are sent, and those are quiet. -/
def SendsQuietly (s t : S1Mme) : Prop := ∃ l, t.sent = s.sent ++ l ∧ ∀ sent ∈ l, Quiet sent

/-- Every UE is related to what becomes of it, and the messages that are sent are quiet. -/
def Related (Q : S1MmeUe → S1MmeUe → Prop) (s t : S1Mme) : Prop :=
  (∀ mmeUe, Q (s.mmeUes.mem mmeUe) (t.mmeUes.mem mmeUe)) ∧ SendsQuietly s t

section
variable {Q : S1MmeUe → S1MmeUe → Prop} {s t : S1Mme} {enb : MmeEnbId} {enbUe : EnbUeId}
  {mmeUe : MmeUeId} {ies : S1apIes}

/-! ## Steps that handlers share -/

theorem SendsQuietly.refl (s : S1Mme) : SendsQuietly s s :=
  ⟨[], (List.append_nil _).symm, fun _ h => absurd h List.not_mem_nil⟩

theorem SendsQuietly.append (h : SendsQuietly s t) {l : List S1Sent}
    (hquiet : ∀ sent ∈ l, Quiet sent) {r : S1Mme} (hr : r.sent = t.sent ++ l) :
    SendsQuietly s r := by
  obtain ⟨before, hbefore, hall⟩ := h
  refine ⟨before ++ l, by rw [hr, hbefore, List.append_assoc], ?_⟩
  intro sent hsent
  rcases List.mem_append.mp hsent with hsent | hsent
  · exact hall sent hsent
  · exact hquiet sent hsent

theorem Related.refl (hQ : S1MmeUe.Frame Q) (s : S1Mme) : Related Q s s :=
  ⟨fun _ => hQ.refl _, .refl s⟩

theorem Related.send (h : Related Q s t) {sent : S1Sent} (hquiet : Quiet sent) :
    Related Q s (t.send sent) :=
  ⟨h.1, h.2.append (l := [sent]) (by simpa using hquiet) rfl⟩

theorem Related.push (h : Related Q s t) (taken : Bool) (event : S1NasEvent) :
    Related Q s (t.push taken event) := by
  rw [S1Mme.push]
  split
  · exact h
  · exact h

theorem Related.modifyEnbUe (h : Related Q s t) (f : S1EnbUe → S1EnbUe) :
    Related Q s (t.modifyEnbUe enbUe f) := h

theorem Related.modifyMmeUe (hQ : S1MmeUe.Frame Q) (h : Related Q s t) {f : S1MmeUe → S1MmeUe}
    (hf : ∀ ue, Q ue (f ue)) : Related Q s (t.modifyMmeUe mmeUe f) := by
  refine ⟨fun u => ?_, h.2⟩
  rw [S1Mme.modifyMmeUe, Pool.mem_modify]
  split
  case isTrue hu =>
    subst hu
    exact hQ.trans (h.1 u) (hf _)
  case isFalse => exact h.1 u

/-- A write to fields beside the sessions and the counters. -/
theorem Related.modifySame (hQ : S1MmeUe.Frame Q) (h : Related Q s t) {f : S1MmeUe → S1MmeUe}
    (hf : ∀ ue, S1MmeUe.SameBearers ue (f ue)) : Related Q s (t.modifyMmeUe mmeUe f) :=
  h.modifyMmeUe hQ fun ue => hQ.same (hf ue)

theorem Related.releaseCommand (h : Related Q s t) {cause : S1apCause} (action : UeCtxRelAction)
    (delay : Bool) (hcause : decide (cause = successfulHandover) = false) :
    Ensures (t.s1apSendUeContextReleaseCommand enbUe cause action delay) (Related Q s) := by
  rw [s1apSendUeContextReleaseCommand]
  apply ensures_ite
  · intro _
    apply ensures_assert
    exact fun _ => ensures_ok ((h.modifyEnbUe _).send ⟨rfl, hcause⟩)
  · intro _
    split
    · exact ensures_ok (h.send ⟨rfl, rfl⟩)
    · apply ensures_assert
      exact fun _ => ensures_ok ((h.modifyEnbUe _).send ⟨rfl, rfl⟩)

theorem Related.deleteSession (h : Related Q s t) (mmeUe : MmeUeId) (sess : S1Sess) :
    Related Q s (t.mmeGtpSendDeleteSessionRequest mmeUe sess) := by
  unfold mmeGtpSendDeleteSessionRequest
  split
  · split
    · exact h
    · exact h.send ⟨rfl, rfl⟩
  · exact h

theorem Related.deleteAllSessions (hQ : S1MmeUe.Frame Q) (h : Related Q s t) (mmeUe : MmeUeId) :
    Related Q s (t.mmeGtpSendDeleteAllSessions mmeUe) := by
  rw [mmeGtpSendDeleteAllSessions]
  split
  · exact h
  · apply List.foldlRecOn
    · exact h.modifyMmeUe hQ fun ue => hQ.removed _ rfl rfl rfl
    · exact fun r hr sess _ => hr.deleteSession mmeUe sess

theorem Related.deleteSessionOrRelease (hQ : S1MmeUe.Frame Q) (h : Related Q s t)
    (mmeUe : MmeUeId) (enbUe : EnbUeId) :
    Ensures (t.mmeSendDeleteSessionOrUeContextRelease mmeUe enbUe) (Related Q s) := by
  rw [mmeSendDeleteSessionOrUeContextRelease]
  apply ensures_ite
  · exact fun _ => ensures_ok (h.deleteAllSessions hQ mmeUe)
  · exact fun _ => Related.releaseCommand (h.modifyEnbUe _) _ _ rfl

theorem Related.releaseAccessBearerOrRelease (h : Related Q s t) (mmeUe : MmeUeId)
    (enbUe : EnbUeId) :
    Ensures (t.mmeSendReleaseAccessBearerOrUeContextRelease mmeUe enbUe) (Related Q s) := by
  rw [mmeSendReleaseAccessBearerOrUeContextRelease]
  apply ensures_ite
  · exact fun _ => ensures_ok (h.send ⟨rfl, rfl⟩)
  · exact fun _ => Related.releaseCommand (h.modifyEnbUe _) _ _ rfl

theorem Related.clearHandover (h : Related Q s t) (sourceUe targetUe : EnbUeId) :
    Ensures (t.clearHandover sourceUe targetUe) (Related Q s) := by
  apply ensures_assert
  intro _
  apply ensures_assert
  exact fun _ => ensures_ok h

theorem Related.deassociateTargetUe (h : Related Q s t) (enbUe : EnbUeId) :
    Ensures (t.sourceUeDeassociateTargetUe enbUe) (Related Q s) := by
  unfold sourceUeDeassociateTargetUe
  split
  · exact h.clearHandover _ _
  · exact h.clearHandover _ _
  · exact ensures_ok h

theorem Related.mmeUeRemove (hQ : S1MmeUe.Frame Q) (h : Related Q s t) (mmeUe : MmeUeId) :
    Related Q s (t.mmeUeRemove mmeUe) := by
  refine ⟨fun u => ?_, h.2⟩
  simp only [S1Mme.mmeUeRemove, Pool.mem_free, Pool.mem_modify]
  split
  case isTrue hu =>
    subst hu
    exact hQ.trans (h.1 u) (hQ.removed (fun _ => false) (List.filter_false _).symm rfl rfl)
  case isFalse => exact h.1 u

theorem Related.setEnbS1u (hQ : S1MmeUe.Frame Q) (h : Related Q s t) (mmeUe : MmeUeId)
    (erab : S1apErab) : Ensures (t.setEnbS1u mmeUe erab) (Related Q s) := by
  apply ensures_bind
  intro _ _
  apply ensures_bind
  intro ip _
  exact ensures_ok (h.modifyMmeUe hQ fun ue => hQ.setEnbS1u ue _ _)

theorem Related.initialContextErab (hQ : S1MmeUe.Frame Q) (h : Related Q s t) (mmeUe : MmeUeId)
    (erab : S1apErab) : Ensures (t.initialContextErab mmeUe erab) (Related Q s) := by
  apply ensures_bind
  intro _ _
  refine (h.setEnbS1u hQ mmeUe erab).bind ?_
  intro r hr
  apply ensures_ite
  · exact fun _ => ensures_ok (hr.send ⟨rfl, rfl⟩)
  · exact fun _ => ensures_ok hr

theorem Related.setupErab (hQ : S1MmeUe.Frame Q) (h : Related Q s t) (mmeUe : MmeUeId)
    (erab : S1apErab) : Ensures (t.setupErab mmeUe erab) (Related Q s) := by
  apply ensures_bind
  intro _ _
  refine (h.setEnbS1u hQ mmeUe erab).bind ?_
  intro r hr
  apply ensures_ite
  · intro _
    apply ensures_assertSome
    intro linkedBearer _
    apply ensures_ite
    · exact fun _ => ensures_ok (hr.send ⟨rfl, rfl⟩)
    · exact fun _ => ensures_ok (hr.send ⟨rfl, rfl⟩)
  · exact fun _ => ensures_ok hr

theorem Related.associateSTmsi (hQ : S1MmeUe.Frame Q) (h : Related Q s t) (enbUe : EnbUeId)
    (sTmsi : Option S1apSTmsi) : Related Q s (t.associateSTmsi enbUe sTmsi) := by
  unfold S1Mme.associateSTmsi
  split
  · apply Related.modifyEnbUe
    apply Related.modifySame hQ
    · split
      · exact h
      · exact h
    · exact fun _ => ⟨rfl, rfl, rfl⟩
  · exact h

theorem Related.initialUe [Ogslib] (hQ : S1MmeUe.Frame Q) (h : Related Q s t) (env : S1apEnv)
    (enbUeS1apId : UInt32) (sTmsi : Option S1apSTmsi) :
    Ensures (t.initialUe env enb enbUeS1apId sTmsi) fun r => Related Q s r.1 := by
  unfold S1Mme.initialUe
  split
  · exact ensures_ok h
  · apply ensures_assertSome
    intro x _
    apply ensures_ok
    apply Related.associateSTmsi hQ
    exact h

theorem Related.sendHandoverRequest [Ogslib] (h : Related Q s t) (slot : Option EnbUeId)
    (targetEnb : MmeEnbId) : Ensures (t.s1apSendHandoverRequest slot mmeUe targetEnb)
      (Related Q s) := by
  apply ensures_assertSome
  intro sourceUe _
  apply ensures_assert
  intro _
  apply ensures_assertSome
  intro targetUe _
  have htied : Ensures ((t.enbUeAdd targetUe targetEnb).sourceUeAssociateTargetUe sourceUe targetUe)
      (Related Q s) := by
    apply ensures_assertSome
    exact fun _ _ => ensures_ok h
  refine htied.bind ?_
  exact fun r hr => ensures_ok (hr.send ⟨rfl, rfl⟩)

theorem Related.setForwarding (hQ : S1MmeUe.Frame Q) (h : Related Q s t) (mmeUe : MmeUeId)
    (ebi : UInt8) (endPoint : Option (Bytes × Octets4)) {write : GtpEndPoint → S1Bearer → S1Bearer}
    (hwrite : ∀ ue endPoint, Q ue (ue.updateBearer ebi (write endPoint))) :
    Ensures (t.setForwarding mmeUe ebi endPoint write) (Related Q s) := by
  unfold S1Mme.setForwarding
  split
  · apply ensures_bind
    exact fun ip _ => ensures_ok (h.modifyMmeUe hQ fun ue => hwrite ue _)
  · exact ensures_ok h

theorem Related.pathSwitchErab (hQ : S1MmeUe.Frame Q) (h : Related Q s t)
    (hcount : ∀ a : S1MmeUe, Q a { a with pathSwitchCounter := a.pathSwitchCounter.inc })
    (mmeUe : MmeUeId) (erab : S1apErab) : Ensures (t.pathSwitchErab mmeUe erab) (Related Q s) := by
  apply ensures_bind
  intro _ _
  refine (h.setEnbS1u hQ mmeUe erab).bind ?_
  intro r hr
  exact ensures_ok ((hr.modifyMmeUe hQ hcount).send ⟨rfl, rfl⟩)

theorem Related.admitErab (hQ : S1MmeUe.Frame Q) (h : Related Q s t)
    (htarget : ∀ (a : S1MmeUe) ebi endPoint,
      Q a (a.updateBearer ebi fun bearer => { bearer with targetS1u := endPoint }))
    (hdl : ∀ (a : S1MmeUe) ebi endPoint,
      Q a (a.updateBearer ebi fun bearer => { bearer with enbDl := endPoint }))
    (hul : ∀ (a : S1MmeUe) ebi endPoint,
      Q a (a.updateBearer ebi fun bearer => { bearer with enbUl := endPoint }))
    (mmeUe : MmeUeId) (erab : S1apErabAdmitted) :
    Ensures (t.admitErab mmeUe erab) (Related Q s) := by
  apply ensures_bind
  intro _ _
  apply ensures_bind
  intro ip _
  have hset : Related Q s (t.writeBearer mmeUe erab.eRabId fun bearer =>
      { bearer with targetS1u := ⟨ntohl erab.gTpTeid, ip⟩ }) :=
    h.modifyMmeUe hQ fun ue => htarget ue _ _
  refine (hset.setForwarding hQ mmeUe _ _ fun ue => hdl ue _).bind ?_
  exact fun r hr => hr.setForwarding hQ mmeUe _ _ fun ue => hul ue _

theorem Related.sendToNas [OgsCrypt] (hQ : S1MmeUe.Frame Q) (h : Related Q s t) (taken : Bool)
    (enbUe : EnbUeId) (s1apCode : S1apProcedureCode) (nasPdu : Option Bytes) :
    Ensures (t.s1apSendToNas taken enbUe s1apCode nasPdu) (Related Q s) := by
  apply ensures_assertSome
  intro pdu _
  apply ensures_bind
  intro _ _
  apply ensures_assertSome
  intro stripped _
  have hdecoded : Ensures (t.nasSecurityDecode enbUe stripped.1 stripped.2)
      fun r => Related Q s r.1 := by
    unfold S1Mme.nasSecurityDecode
    split
    · apply ensures_bind
      intro decoded _
      apply ensures_assert
      exact fun _ => ensures_ok (h.modifySame hQ fun _ => ⟨rfl, rfl, rfl⟩)
    · exact ensures_ok h
  refine hdecoded.bind ?_
  intro r hr
  apply ensures_assertSome
  intro first _
  apply ensures_ite
  · exact fun _ => ensures_ok (hr.push taken _)
  · intro _
    apply ensures_ite
    · intro _
      apply ensures_assertSome
      exact fun u _ => ensures_ok (hr.push taken _)
    · exact fun _ => ensures_error _

/-! ## One message -/

theorem related_s1SetupRequest (hQ : S1MmeUe.Frame Q) (env : S1apEnv) :
    Ensures (s.s1apHandleS1SetupRequest env enb ies) (Related Q s) := by
  have hs := Related.refl hQ s
  apply ensures_assertSome
  intro globalEnbId _
  apply ensures_bind
  intro enbId _
  apply ensures_assertSome
  intro supportedTas _
  apply ensures_bind
  intro tais _
  apply ensures_ite
  · exact fun _ => ensures_ok (hs.send ⟨rfl, rfl⟩)
  · intro _
    apply ensures_ite
    · exact fun _ => ensures_ok (hs.send ⟨rfl, rfl⟩)
    · exact fun _ => ensures_ok (hs.send ⟨rfl, rfl⟩)

theorem related_initialUeMessage [Ogslib] [OgsCrypt] (hQ : S1MmeUe.Frame Q) (env : S1apEnv) :
    Ensures (s.s1apHandleInitialUeMessage env enb ies) (Related Q s) := by
  apply ensures_assertSome
  intro id _
  refine ((Related.refl hQ s).initialUe hQ env id ies.sTmsi).bind ?_
  intro r hr
  apply ensures_assertSome
  intro tai _
  apply ensures_assertSome
  intro eutranCgi _
  apply ensures_bind
  intro saved _
  exact (hr.modifyEnbUe _).sendToNas hQ _ _ _ _

theorem related_uplinkNasTransport [OgsCrypt] (hQ : S1MmeUe.Frame Q) (env : S1apEnv) :
    Ensures (s.s1apHandleUplinkNasTransport env enb ies) (Related Q s) := by
  apply ensures_assertSome
  intro id _
  split
  · exact ensures_ok (.refl hQ s)
  · exact (Related.refl hQ s).sendToNas hQ _ _ _ _

theorem related_ueCapabilityInfoIndication (hQ : S1MmeUe.Frame Q) :
    Ensures (s.s1apHandleUeCapabilityInfoIndication enb ies) (Related Q s) := by
  apply ensures_assertEnbUe
  intro x _ _
  split
  · apply ensures_assertSome
    intro capability _
    exact ensures_ok ((Related.refl hQ s).modifySame hQ fun _ => ⟨rfl, rfl, rfl⟩)
  · exact ensures_ok (.refl hQ s)

theorem related_enbConfigurationTransfer (hQ : S1MmeUe.Frame Q) :
    Ensures (s.s1apHandleEnbConfigurationTransfer ies) (Related Q s) := by
  have hs := Related.refl hQ s
  unfold s1apHandleEnbConfigurationTransfer
  split
  · apply ensures_bind
    intro _ _
    apply ensures_bind
    intro targetEnbId _
    split
    · exact ensures_ok (hs.send ⟨rfl, rfl⟩)
    · exact ensures_ok hs
  · exact ensures_ok hs

theorem related_s1Reset (hQ : S1MmeUe.Frame Q) :
    Ensures (s.s1apHandleS1Reset enb ies) (Related Q s) := by
  have hs := Related.refl hQ s
  apply ensures_assertSome
  intro cause _
  apply ensures_assertSome
  intro resetType _
  apply ensures_ok
  refine Related.send ?_ ⟨rfl, rfl⟩
  split
  · exact List.foldlRecOn _ _ hs fun r hr y _ => hr
  · refine List.foldlRecOn _ _ hs fun r hr item _ => ?_
    split
    · exact hr
    · exact hr
  · exact hs

/-- The end of handlers that clear the service indicator -/
theorem Related.clearServiceIndicator (hQ : S1MmeUe.Frame Q) (h : Related Q s t) :
    Related Q s (t.clearServiceIndicator mmeUe) := h.modifySame hQ fun _ => ⟨rfl, rfl, rfl⟩

theorem related_initialContextSetupResponse (hQ : S1MmeUe.Frame Q) :
    Ensures (s.s1apHandleInitialContextSetupResponse enb ies) (Related Q s) := by
  apply ensures_assertEnbUe
  intro x _ _
  apply ensures_assertMmeUe
  intro u _
  apply ensures_assertSome
  intro list _
  have hloop : Ensures (list.foldlM (fun r erab => r.initialContextErab u erab) s) (Related Q s) :=
    ensures_foldlM (fun r hr erab _ => hr.initialContextErab hQ u erab) (.refl hQ s)
  refine hloop.bind ?_
  intro r hr
  apply ensures_ok
  apply Related.clearServiceIndicator hQ
  split
  · exact hr.send ⟨rfl, rfl⟩
  · exact hr

theorem related_initialContextSetupFailure (hQ : S1MmeUe.Frame Q) :
    Ensures (s.s1apHandleInitialContextSetupFailure enb ies) (Related Q s) := by
  apply ensures_assertSome
  intro id _
  apply ensures_assertSome
  intro cause _
  split
  · exact ensures_error _
  · rename_i x _
    apply ensures_assertMmeUe
    intro u _
    have hrelease := ensures_ite (p := (s.mmeUes.mem u).sm = .registered)
      (fun _ => ensures_ok (.refl hQ s))
      (fun _ => (Related.refl hQ s).deleteSessionOrRelease hQ u x)
    refine hrelease.bind ?_
    exact fun r hr => ensures_ok (hr.clearServiceIndicator hQ)

theorem related_ueContextModificationResponse (hQ : S1MmeUe.Frame Q) :
    Ensures (s.s1apHandleUeContextModificationResponse enb ies) (Related Q s) := by
  apply ensures_assertEnbUe
  intro x _ _
  apply ensures_assertMmeUe
  exact fun u _ => ensures_ok ((Related.refl hQ s).clearServiceIndicator hQ)

theorem related_ueContextModificationFailure (hQ : S1MmeUe.Frame Q) :
    Ensures (s.s1apHandleUeContextModificationFailure enb ies) (Related Q s) := by
  apply ensures_assertSome
  intro id _
  apply ensures_assertSome
  intro cause _
  split
  · exact ensures_error _
  · apply ensures_assertMmeUe
    exact fun u _ => ensures_ok ((Related.refl hQ s).clearServiceIndicator hQ)

theorem related_eRabSetupResponse (hQ : S1MmeUe.Frame Q) :
    Ensures (s.s1apHandleERabSetupResponse enb ies) (Related Q s) := by
  apply ensures_assertEnbUe
  intro x _ _
  apply ensures_assertMmeUe
  intro u _
  apply ensures_assertSome
  intro list _
  exact ensures_foldlM (fun r hr erab _ => hr.setupErab hQ u erab) (.refl hQ s)

theorem related_ueContextReleaseRequest (hQ : S1MmeUe.Frame Q) :
    Ensures (s.s1apHandleUeContextReleaseRequest enb ies) (Related Q s) := by
  have hs := Related.refl hQ s
  apply ensures_assertSome
  intro id _
  split
  · exact ensures_ok (hs.send ⟨rfl, rfl⟩)
  · apply ensures_assertSome
    intro cause _
    split
    · apply ensures_ite
      · exact fun _ => hs.releaseAccessBearerOrRelease _ _
      · exact fun _ => hs.deleteSessionOrRelease hQ _ _
    · exact Related.releaseCommand (hs.modifyEnbUe _) _ _ rfl

theorem related_ueContextReleaseComplete (hQ : S1MmeUe.Frame Q) :
    Ensures (s.s1apHandleUeContextReleaseComplete enb ies) (Related Q s) := by
  have hs := Related.refl hQ s
  apply ensures_assertSome
  intro id _
  split
  · exact ensures_ok (hs.send ⟨rfl, rfl⟩)
  · dsimp only
    split
    · exact ensures_ok hs
    · apply ensures_useMmeUe
      exact fun u _ => ensures_ok (hs.modifySame hQ fun _ => ⟨rfl, rfl, rfl⟩)
    · apply ensures_useMmeUe
      exact fun u _ => ensures_ok (hs.mmeUeRemove hQ u)
    · refine (hs.deassociateTargetUe _).bind ?_
      intro r hr
      apply ensures_useMmeUe
      intro u _
      apply ensures_ite
      · exact fun _ => ensures_ok (Related.send hr ⟨rfl, rfl⟩)
      · exact fun _ => ensures_ok (hr.modifyMmeUe hQ hQ.clearIndirectTunnel)
    · exact ensures_error _

theorem related_handoverRequired [Ogslib] [OgsCrypt] (hQ : S1MmeUe.Frame Q) (env : S1apEnv) :
    Ensures (s.s1apHandleHandoverRequired env enb ies) (Related Q s) := by
  have hs := Related.refl hQ s
  apply ensures_assertSome
  intro targetId _
  split
  · exact ensures_ok hs
  · apply ensures_bind
    intro targetEnbId _
    split
    · exact ensures_ok hs
    · apply ensures_assertBoth
      intro x _ _
      apply ensures_assertMmeUe
      intro u _
      apply ensures_ite
      · intro _
        have hnh : Related Q s (s.modifyMmeUe u S1MmeUe.nextNh) :=
          hs.modifySame hQ fun _ => ⟨rfl, rfl, rfl⟩
        apply ensures_assertSome
        intro handoverType _
        exact (hnh.modifyEnbUe _).sendHandoverRequest _ _
      · intro _
        apply ensures_assertSome
        exact fun cause _ => ensures_ok (hs.send ⟨rfl, rfl⟩)

theorem related_handoverFailure (hQ : S1MmeUe.Frame Q) :
    Ensures (s.s1apHandleHandoverFailure ies) (Related Q s) := by
  apply ensures_assertSome
  intro id _
  apply ensures_assertSome
  intro cause _
  apply ensures_assertSome
  intro targetUe _
  apply ensures_assertSome
  intro sourceUe _
  apply Related.releaseCommand
  · exact (Related.refl hQ s).send ⟨rfl, rfl⟩
  · rfl

theorem related_handoverCancel (hQ : S1MmeUe.Frame Q) :
    Ensures (s.s1apHandleHandoverCancel enb ies) (Related Q s) := by
  apply ensures_assertSome
  intro cause _
  apply ensures_assertBoth
  intro sourceUe _ _
  apply ensures_assertSome
  intro targetUe _
  apply Related.releaseCommand
  · exact (Related.refl hQ s).send ⟨rfl, rfl⟩
  · rfl

theorem related_enbStatusTransfer (hQ : S1MmeUe.Frame Q) :
    Ensures (s.s1apHandleEnbStatusTransfer enb ies) (Related Q s) := by
  apply ensures_assertSome
  intro container _
  apply ensures_assertBoth
  intro sourceUe _ _
  apply ensures_assertSome
  exact fun targetUe _ => ensures_ok ((Related.refl hQ s).send ⟨rfl, rfl⟩)

/-- A Path Switch Request also counts the requests to the SGW. -/
theorem related_pathSwitchRequest [OgsCrypt] (hQ : S1MmeUe.Frame Q)
    (hcount : ∀ a : S1MmeUe, Q a { a with pathSwitchCounter := a.pathSwitchCounter.inc }) :
    Ensures (s.s1apHandlePathSwitchRequest enb ies) (Related Q s) := by
  have hs := Related.refl hQ s
  apply ensures_assertSome
  intro eutranCgi _
  apply ensures_assertSome
  intro tai _
  apply ensures_bind
  intro location _
  apply ensures_assertSome
  intro capabilities _
  apply ensures_assertSome
  intro id _
  apply ensures_assertSome
  intro enbUeS1apId _
  split
  · exact ensures_ok (hs.send ⟨rfl, rfl⟩)
  · rename_i x _
    apply ensures_assertMmeUe
    intro u _
    apply ensures_ite
    · intro _
      have hnh : Related Q s (s.modifyMmeUe u S1MmeUe.nextNh) :=
        hs.modifySame hQ fun _ => ⟨rfl, rfl, rfl⟩
      have hset : Related Q s (((s.modifyMmeUe u S1MmeUe.nextNh).modifyEnbUe x fun e =>
          { e with enbUeS1apId := enbUeS1apId, saved := location }).pathSwitchUe u location
            capabilities) :=
        (hnh.modifyEnbUe _).modifySame hQ fun _ => ⟨rfl, rfl, rfl⟩
      apply ensures_assertSome
      intro list _
      refine Ensures.bind (P := Related Q s)
        (ensures_foldlM (fun r hr erab _ => hr.pathSwitchErab hQ hcount u erab) hset) ?_
      exact fun r hr => ensures_ok hr
    · exact fun _ => ensures_ok (hs.send ⟨rfl, rfl⟩)

/-- A Handover Request Acknowledge also writes the end points of the target, and those for data
that is forwarded. -/
theorem related_handoverRequestAck (hQ : S1MmeUe.Frame Q)
    (htarget : ∀ (a : S1MmeUe) ebi endPoint,
      Q a (a.updateBearer ebi fun bearer => { bearer with targetS1u := endPoint }))
    (hdl : ∀ (a : S1MmeUe) ebi endPoint,
      Q a (a.updateBearer ebi fun bearer => { bearer with enbDl := endPoint }))
    (hul : ∀ (a : S1MmeUe) ebi endPoint,
      Q a (a.updateBearer ebi fun bearer => { bearer with enbUl := endPoint })) :
    Ensures (s.s1apHandleHandoverRequestAck ies) (Related Q s) := by
  have hs := Related.refl hQ s
  apply ensures_assertSome
  intro id _
  apply ensures_assertSome
  intro enbUeS1apId _
  apply ensures_assertSome
  intro list _
  apply ensures_assertSome
  intro container _
  apply ensures_assertSome
  intro targetUe _
  apply ensures_assertSome
  intro sourceUe _
  apply ensures_assertMmeUe
  intro u _
  refine Ensures.bind (P := Related Q s)
    (ensures_foldlM (fun r hr erab _ => hr.admitErab hQ htarget hdl hul u erab) hs) ?_
  intro r hr
  have hstored : Related Q s (r.modifyMmeUe u fun ue => { ue with container := some container }) :=
    hr.modifySame hQ fun _ => ⟨rfl, rfl, rfl⟩
  apply ensures_ite
  · exact fun _ => ensures_ok (hstored.send ⟨rfl, rfl⟩)
  · exact fun _ => ensures_ok (hstored.send ⟨rfl, rfl⟩)

/-! ### Handover Notify -/

/-- The connection to the target and the UE of a handover -/
def handoverOf (s : S1Mme) (targetUe : Option EnbUeId) : Option (EnbUeId × MmeUeId) :=
  targetUe.bind fun targetUe => (s.enbUes.mem targetUe).sourceUe.bind fun sourceUe =>
    (s.enbUes.mem sourceUe).mmeUe.map fun mmeUe => (targetUe, mmeUe)

/-- What a Handover Notify does: all bearers of the UE get the end points of the target, and each of
them is reported to the SGW and counted. -/
structure Notified (s : S1Mme) (mmeUe : MmeUeId) (t : S1Mme) : Prop where
  others : ∀ u, u ≠ mmeUe → t.mmeUes.mem u = s.mmeUes.mem u
  bearers : (t.mmeUes.mem mmeUe).bearers =
    (s.mmeUes.mem mmeUe).bearers.map fun bearer => { bearer with enbS1u := bearer.targetS1u }
  pathSwitchCounter :
    (t.mmeUes.mem mmeUe).pathSwitchCounter = (s.mmeUes.mem mmeUe).pathSwitchCounter
  handoverNotifyCounter : (t.mmeUes.mem mmeUe).handoverNotifyCounter =
    GtpCounter.inc^[(s.mmeUes.mem mmeUe).bearers.length]
      (s.mmeUes.mem mmeUe).handoverNotifyCounter
  sent : t.sent = s.sent ++ (s.mmeUes.mem mmeUe).bearers.map fun bearer =>
    .toSgw mmeUe (.modifyBearerRequest bearer.ebi true)

/-- The loop of a Handover Notify over some bearers -/
theorem foldl_notify (bearers : List S1Bearer) :
    bearers.foldl (fun s bearer =>
      let s := s.modifyMmeUe mmeUe fun ue =>
        { ue with handoverNotifyCounter := ue.handoverNotifyCounter.inc }
      s.mmeGtpSendModifyBearerRequest mmeUe bearer.ebi true) t =
    { t with
      mmeUes := t.mmeUes.modify mmeUe fun ue =>
        { ue with handoverNotifyCounter := GtpCounter.inc^[bearers.length] ue.handoverNotifyCounter }
      sent := t.sent ++ bearers.map fun bearer =>
        .toSgw mmeUe (.modifyBearerRequest bearer.ebi true) } := by
  induction bearers generalizing t with
  | nil =>
    simp only [List.foldl_nil, List.length_nil, Function.iterate_zero, id_eq, List.map_nil,
      List.append_nil]
    rw [Pool.modify_eq_self rfl]
  | cons bearer bearers ih =>
    rw [List.foldl_cons, ih]
    simp [S1Mme.modifyMmeUe, mmeGtpSendModifyBearerRequest, S1Mme.send, Pool.modify_modify]

theorem notified_notifyBearers (s : S1Mme) (mmeUe : MmeUeId) :
    Notified s mmeUe (s.notifyBearers mmeUe) := by
  rw [notifyBearers, foldl_notify]
  constructor
  · intro u hu
    simp [S1Mme.modifyMmeUe, hu]
  · simp only [S1Mme.modifyMmeUe, Pool.mem_modify, if_true]
    exact S1MmeUe.bearers_updateBearers
  · simp [S1Mme.modifyMmeUe, S1MmeUe.updateBearers]
  · simp [S1Mme.modifyMmeUe, S1MmeUe.updateBearers]
  · rfl

theorem notified_handoverNotification (h : s.s1apHandleHandoverNotification enb ies = .ok t) :
    ∃ targetUe mmeUe,
      s.handoverOf (ies.enbUeS1apId.bind (s.enbUeFindByEnbUeS1apId enb)) =
        some (targetUe, mmeUe) ∧ Notified s mmeUe t := by
  unfold s1apHandleHandoverNotification assertBoth assertEnbUe assertMmeUe at h
  simp only [bind_eq_ok, assertSome_eq_ok, assert_eq_ok, Except.ok.injEq] at h
  obtain ⟨_, -, _, -, location, -, _, ⟨_, -, targetUe, ⟨id, hid, hfind⟩, -, -, rfl⟩, sourceUe,
    hsource, u, hu, rfl⟩ := h
  refine ⟨targetUe, u, ?_, ?_⟩
  · simp [handoverOf, hid, hfind, hsource, hu]
  · have hnotified := notified_notifyBearers (((s.mmeUeAssociateEnbUe u targetUe).modifyEnbUe
      targetUe fun e => { e with saved := location }).modifyMmeUe u
        fun ue => { ue with location := location }) u
    constructor
    · intro v hv
      rw [hnotified.others v hv]
      simp [S1Mme.modifyMmeUe, S1Mme.modifyEnbUe, mmeUeAssociateEnbUe, hv]
    · rw [hnotified.bearers]
      simp [S1Mme.modifyMmeUe, S1Mme.modifyEnbUe, mmeUeAssociateEnbUe, S1MmeUe.bearers]
    · rw [hnotified.pathSwitchCounter]
      simp [S1Mme.modifyMmeUe, S1Mme.modifyEnbUe, mmeUeAssociateEnbUe]
    · rw [hnotified.handoverNotifyCounter]
      simp [S1Mme.modifyMmeUe, S1Mme.modifyEnbUe, mmeUeAssociateEnbUe, S1MmeUe.bearers]
    · rw [hnotified.sent]
      simp [S1Mme.modifyMmeUe, S1Mme.modifyEnbUe, mmeUeAssociateEnbUe, S1MmeUe.bearers]

/-- The handlers that write more: the end points of a target, and the counters. -/
def WritesMore : S1apProcedure → Prop
  | .pathSwitchRequest | .handoverRequestAck | .handoverNotification => True
  | _ => False

/-- The relation holds across every other message. -/
theorem related_s1apHandle [Ogslib] [OgsCrypt] (hQ : S1MmeUe.Frame Q) (env : S1apEnv)
    {procedure : S1apProcedure} (hmore : ¬WritesMore procedure) :
    Ensures (s.s1apHandle env enb ies procedure) (Related Q s) := by
  cases procedure with
  | s1SetupRequest => exact related_s1SetupRequest hQ env
  | initialUeMessage => exact related_initialUeMessage hQ env
  | uplinkNasTransport => exact related_uplinkNasTransport hQ env
  | ueCapabilityInfoIndication => exact related_ueCapabilityInfoIndication hQ
  | ueContextReleaseRequest => exact related_ueContextReleaseRequest hQ
  | pathSwitchRequest => exact absurd trivial hmore
  | enbConfigurationTransfer => exact related_enbConfigurationTransfer hQ
  | handoverRequired => exact related_handoverRequired hQ env
  | handoverCancel => exact related_handoverCancel hQ
  | enbStatusTransfer => exact related_enbStatusTransfer hQ
  | handoverNotification => exact absurd trivial hmore
  | s1Reset => exact related_s1Reset hQ
  | initialContextSetupResponse => exact related_initialContextSetupResponse hQ
  | ueContextModificationResponse => exact related_ueContextModificationResponse hQ
  | ueContextReleaseComplete => exact related_ueContextReleaseComplete hQ
  | eRabSetupResponse => exact related_eRabSetupResponse hQ
  | handoverRequestAck => exact absurd trivial hmore
  | initialContextSetupFailure => exact related_initialContextSetupFailure hQ
  | ueContextModificationFailure => exact related_ueContextModificationFailure hQ
  | handoverFailure => exact related_handoverFailure hQ
  | eRabModifyResponse | eRabReleaseResponse | writeReplaceWarningResponse | killResponse
  | notImplemented => exact ensures_ok (.refl hQ s)

end

end S1Mme

end NextEpc

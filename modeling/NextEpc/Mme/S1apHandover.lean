import NextEpc.Lib.History
import NextEpc.Lib.Trace
import NextEpc.Mme.S1apFrame

/-!
# The bearers of a handover

The target of a handover admits bearers in its Handover Request Acknowledge, and a Handover Notify
switches the bearers of the UE. What the target gives for a bearer is stored with the bearer, and
nothing says of which handover it is.
-/

namespace NextEpc

open Fallible Octets

/-! ## What a run has seen -/

inductive HandoverItem
  /-- A connection is added. That of the target is added when a handover begins. -/
  | enbUeAdded (enbUe : EnbUeId)
  | bearerAdded (mmeUe : MmeUeId) (ebi : UInt8)
  /-- An E-RAB of a Handover Request Acknowledge -/
  | admitted (targetUe : EnbUeId) (mmeUe : MmeUeId) (ebi : UInt8) (endPoint : GtpEndPoint)
  deriving DecidableEq, Repr

namespace HandoverItem

/-- What an item says of the end point of a target for a bearer, by any handover -/
def ofBearer (mmeUe : MmeUeId) (ebi : UInt8) : HandoverItem → Option (Option GtpEndPoint)
  | .enbUeAdded _ => none
  | .bearerAdded u e => if u = mmeUe ∧ e = ebi then some none else none
  | .admitted _ u e endPoint => if u = mmeUe ∧ e = ebi then some (some endPoint) else none

/-- What an item says of the end point of a target for a bearer, by the handover to the target -/
def ofHandover (targetUe : EnbUeId) (mmeUe : MmeUeId) (ebi : UInt8) :
    HandoverItem → Option (Option GtpEndPoint)
  | .enbUeAdded x => if x = targetUe then some none else none
  | .bearerAdded u e => if u = mmeUe ∧ e = ebi then some none else none
  | .admitted x u e endPoint =>
    if x = targetUe ∧ u = mmeUe ∧ e = ebi then some (some endPoint) else none

end HandoverItem

/-- The end point that the last Acknowledge with the bearer has for it -/
def lastAdmission (past : List HandoverItem) (mmeUe : MmeUeId) (ebi : UInt8) :
    Option GtpEndPoint := (History.latest (HandoverItem.ofBearer mmeUe ebi) past).join

/-- The end point that the target has admitted the bearer with, in this handover -/
def admission (past : List HandoverItem) (targetUe : EnbUeId) (mmeUe : MmeUeId) (ebi : UInt8) :
    Option GtpEndPoint := (History.latest (HandoverItem.ofHandover targetUe mmeUe ebi) past).join

section
variable {past : List HandoverItem} {item : HandoverItem} {mmeUe u : MmeUeId} {ebi e : UInt8}
  {targetUe : EnbUeId} {endPoint : GtpEndPoint}

theorem lastAdmission_cons_of_none (h : item.ofBearer mmeUe ebi = none) :
    lastAdmission (item :: past) mmeUe ebi = lastAdmission past mmeUe ebi := by
  rw [lastAdmission, History.latest_cons_of_none h, lastAdmission]

theorem lastAdmission_admitted : lastAdmission (.admitted targetUe u e endPoint :: past) mmeUe ebi =
    if u = mmeUe ∧ e = ebi then some endPoint else lastAdmission past mmeUe ebi := by
  split
  case isTrue h => simp [lastAdmission, History.latest, HandoverItem.ofBearer, h]
  case isFalse h => exact lastAdmission_cons_of_none (by simp [HandoverItem.ofBearer, h])

theorem lastAdmission_bearerAdded : lastAdmission (.bearerAdded u e :: past) mmeUe ebi =
    if u = mmeUe ∧ e = ebi then none else lastAdmission past mmeUe ebi := by
  split
  case isTrue h => simp [lastAdmission, History.latest, HandoverItem.ofBearer, h]
  case isFalse h => exact lastAdmission_cons_of_none (by simp [HandoverItem.ofBearer, h])

/-- What this handover has admitted was admitted by some handover. -/
theorem lastAdmission_of_admission (h : admission past targetUe mmeUe ebi = some endPoint) :
    ∃ last, lastAdmission past mmeUe ebi = some last := by
  induction past with
  | nil => cases h
  | cons item past ih =>
    cases item with
    | enbUeAdded x =>
      rw [lastAdmission_cons_of_none rfl]
      apply ih
      by_cases hx : x = targetUe
      · simp [admission, History.latest, HandoverItem.ofHandover, hx] at h
      · simpa [admission, History.latest, HandoverItem.ofHandover, hx] using h
    | bearerAdded v f =>
      rw [lastAdmission_bearerAdded]
      by_cases hsame : v = mmeUe ∧ f = ebi
      · simp [admission, History.latest, HandoverItem.ofHandover, hsame] at h
      · rw [if_neg hsame]
        apply ih
        simpa [admission, History.latest, HandoverItem.ofHandover, hsame] using h
    | admitted x v f w =>
      rw [lastAdmission_admitted]
      by_cases hsame : v = mmeUe ∧ f = ebi
      · exact ⟨w, if_pos hsame⟩
      · rw [if_neg hsame]
        apply ih
        simpa [admission, History.latest, HandoverItem.ofHandover, hsame] using h

end

/-! ## Runs -/

namespace S1Mme

/-- `mme_sess_add` for the list of sessions. The default bearer is in a slot that keeps what was in
it. -/
def mmeSessAdd (s : S1Mme) (mmeUe : MmeUeId) (bearer : S1Bearer) : S1Mme :=
  s.modifyMmeUe mmeUe fun ue => { ue with sessList := ue.sessList ++ [⟨[bearer]⟩] }

/-- `mme_bearer_add` for the list of bearers of a session -/
def mmeBearerAdd (s : S1Mme) (mmeUe : MmeUeId) (sess : Nat) (bearer : S1Bearer) : S1Mme :=
  s.modifyMmeUe mmeUe fun ue =>
    { ue with
      sessList := ue.sessList.modify sess fun sess =>
        { sess with bearerList := sess.bearerList ++ [bearer] } }

end S1Mme

/-- The identity of a bearer and the end point that is stored for a target -/
def S1Bearer.target (bearer : S1Bearer) : UInt8 × GtpEndPoint := (bearer.ebi, bearer.targetS1u)

def S1MmeUe.targets (ue : S1MmeUe) : List (UInt8 × GtpEndPoint) := ue.bearers.map S1Bearer.target

/-- Bearers may be removed. Those that stay keep their identities and the end points of targets. -/
def S1MmeUe.TargetsKept (a b : S1MmeUe) : Prop := b.targets.Sublist a.targets

namespace S1Mme

/-- What other parts of the MME do: they add no connections. -/
structure Elsewhere (s t : S1Mme) : Prop where
  enbUes : ∀ x, t.enbUes.live x = true → s.enbUes.live x = true
  mmeUes : ∀ u, S1MmeUe.TargetsKept (s.mmeUes.mem u) (t.mmeUes.mem u)

/-- The E-RABs of a Handover Request Acknowledge, the latest first -/
def admissions (s : S1Mme) (ies : S1apIes) : List HandoverItem :=
  match s.handoverOf (ies.mmeUeS1apId.bind s.enbUeFindByMmeUeS1apId) with
  | some (targetUe, mmeUe) =>
    ((ies.eRabAdmittedList.getD []).map fun erab =>
      .admitted targetUe mmeUe erab.eRabId ⟨ntohl erab.gTpTeid, erab.transportLayerAddress⟩).reverse
  | none => []

/-- A connection that a message has added -/
def enbUesAdded (s t : S1Mme) (slot : Option EnbUeId) : List HandoverItem :=
  match slot with
  | some x => if s.enbUes.live x = false ∧ t.enbUes.live x = true then [.enbUeAdded x] else []
  | none => []

/-- What there is to see in a message -/
def handoverItems (s t : S1Mme) (env : S1apEnv) (ies : S1apIes) :
    S1apProcedure → List HandoverItem
  | .handoverRequestAck => s.admissions ies
  | _ => s.enbUesAdded t env.slot

end S1Mme

/-- The state with what the run has seen -/
structure HandoverRun where
  mme : S1Mme
  past : List HandoverItem

namespace HandoverRun

inductive Event
  | s1ap (env : S1apEnv) (enb : MmeEnbId) (ies : S1apIes) (procedure : S1apProcedure)
  | mmeSessAdd (mmeUe : MmeUeId) (bearer : S1Bearer)
  | mmeBearerAdd (mmeUe : MmeUeId) (sess : Nat) (bearer : S1Bearer)
  | other

/-- The label of a step has the state before it. -/
inductive Step [Ogslib] [OgsCrypt] : HandoverRun → Event × HandoverRun → HandoverRun → Prop
  | s1ap {r : HandoverRun} {t : S1Mme} {env : S1apEnv} {enb : MmeEnbId} {ies : S1apIes}
      {procedure : S1apProcedure} (h : r.mme.s1apHandle env enb ies procedure = .ok t) :
      Step r (.s1ap env enb ies procedure, r)
        ⟨t, r.mme.handoverItems t env ies procedure ++ r.past⟩
  | mmeSessAdd {r : HandoverRun} (mmeUe : MmeUeId) (bearer : S1Bearer) :
      Step r (.mmeSessAdd mmeUe bearer, r)
        ⟨r.mme.mmeSessAdd mmeUe bearer, .bearerAdded mmeUe bearer.ebi :: r.past⟩
  | mmeBearerAdd {r : HandoverRun} {mmeUe : MmeUeId} {sess : Nat} (bearer : S1Bearer)
      (hsess : sess < (r.mme.mmeUes.mem mmeUe).sessList.length) :
      Step r (.mmeBearerAdd mmeUe sess bearer, r)
        ⟨r.mme.mmeBearerAdd mmeUe sess bearer, .bearerAdded mmeUe bearer.ebi :: r.past⟩
  | other {r : HandoverRun} {t : S1Mme} (h : r.mme.Elsewhere t) : Step r (.other, r) ⟨t, r.past⟩

def initial : HandoverRun := ⟨S1Mme.initial, []⟩

/-- A bearer that is switched to the end point that the target has admitted it with, and stays as it
is if the target has not -/
def switched (past : List HandoverItem) (targetUe : EnbUeId) (mmeUe : MmeUeId)
    (bearer : S1Bearer) : S1Bearer :=
  match admission past targetUe mmeUe bearer.ebi with
  | some endPoint => { bearer with enbS1u := endPoint }
  | none => bearer

/-- A Handover Notify switches the bearers that the target has admitted in this handover, each to
the end point in the Acknowledge, and reports these bearers and no others to the SGW. -/
def SwitchesAdmitted : (Event × HandoverRun) × HandoverRun → Prop
  | ((.s1ap _ enb ies .handoverNotification, r), t) => ∀ targetUe mmeUe,
      r.mme.handoverOf (ies.enbUeS1apId.bind (r.mme.enbUeFindByEnbUeS1apId enb)) =
        some (targetUe, mmeUe) →
      (t.mme.mmeUes.mem mmeUe).bearers =
        (r.mme.mmeUes.mem mmeUe).bearers.map (switched r.past targetUe mmeUe) ∧
      t.mme.sent = r.mme.sent ++ ((r.mme.mmeUes.mem mmeUe).bearers.filter fun bearer =>
        (admission r.past targetUe mmeUe bearer.ebi).isSome).map fun bearer =>
          .toSgw mmeUe (.modifyBearerRequest bearer.ebi true)
  | _ => True

/-- At a Handover Notify, the target has admitted all bearers of the UE in this handover, and no
Acknowledge for another handover has given another end point since. -/
def AdmitsAll (r : HandoverRun) : Event × HandoverRun → Prop
  | (.s1ap _ enb ies .handoverNotification, _) => ∀ targetUe mmeUe,
      r.mme.handoverOf (ies.enbUeS1apId.bind (r.mme.enbUeFindByEnbUeS1apId enb)) =
        some (targetUe, mmeUe) →
      ∀ bearer ∈ (r.mme.mmeUes.mem mmeUe).bearers, ∃ endPoint,
        admission r.past targetUe mmeUe bearer.ebi = some endPoint ∧
        lastAdmission r.past mmeUe bearer.ebi = some endPoint
  | _ => True

/-- The identity of a new bearer is of no other bearer of the UE. -/
def FreshIdentity (r : HandoverRun) : Event × HandoverRun → Prop
  | (.mmeSessAdd mmeUe bearer, _) | (.mmeBearerAdd mmeUe _ bearer, _) =>
    ∀ b ∈ (r.mme.mmeUes.mem mmeUe).bearers, b.ebi ≠ bearer.ebi
  | _ => True

/-! ## What is stored for the bearers -/

/-- The identities of bearers are unique, and the end point of a target that is stored is that of
the last Acknowledge. -/
structure Tracks (s : S1Mme) (past : List HandoverItem) : Prop where
  distinct : ∀ mmeUe, ((s.mmeUes.mem mmeUe).targets.map Prod.fst).Nodup
  endPoint : ∀ mmeUe, ∀ target ∈ (s.mmeUes.mem mmeUe).targets, ∀ endPoint,
    lastAdmission past mmeUe target.1 = some endPoint → target.2 = endPoint

section
open S1Mme S1MmeUe

variable {s t : S1Mme} {r q : HandoverRun} {past : List HandoverItem} {mmeUe : MmeUeId}
  {a b : S1MmeUe} {bearer : S1Bearer}

theorem targets_of_bearers_eq (h : b.bearers = a.bearers) : TargetsKept a b := by
  rw [TargetsKept, S1MmeUe.targets, h]
  exact List.Sublist.refl _

/-- A write to other fields of a bearer -/
theorem targetsKept_updateBearer (ue : S1MmeUe) (ebi : UInt8) {f : S1Bearer → S1Bearer}
    (hf : ∀ bearer, (f bearer).target = bearer.target) :
    TargetsKept ue (ue.updateBearer ebi f) := by
  rw [TargetsKept, S1MmeUe.targets, S1MmeUe.bearers_updateBearer, S1MmeUe.map_updateFirst hf]
  exact List.Sublist.refl _

theorem targetsKept_updateBearers (ue : S1MmeUe) {f : S1Bearer → S1Bearer}
    (hf : ∀ bearer, (f bearer).target = bearer.target) : TargetsKept ue (ue.updateBearers f) := by
  have hmap : (ue.updateBearers f).targets = ue.targets := by
    rw [S1MmeUe.targets, S1MmeUe.bearers_updateBearers, List.map_map]
    exact List.map_congr_left fun bearer _ => hf bearer
  rw [TargetsKept, hmap]

theorem targetsKept_frame : S1MmeUe.Frame TargetsKept where
  same h := targets_of_bearers_eq (congrArg (List.flatMap S1Sess.bearerList) h.sessList)
  trans h h' := h'.trans h
  filter _ _ := (List.filter_sublist.flatMap _).map _
  setEnbS1u ue ebi _ := targetsKept_updateBearer ue ebi fun _ => rfl
  clearIndirectTunnel ue := targetsKept_updateBearers ue fun _ => rfl

theorem Tracks.kept (h : Tracks s past)
    (hkept : ∀ u, TargetsKept (s.mmeUes.mem u) (t.mmeUes.mem u)) : Tracks t past := by
  constructor
  · exact fun u => (h.distinct u).sublist ((hkept u).map _)
  · exact fun u target htarget => h.endPoint u target ((hkept u).subset htarget)

/-- Connections that are added are no end points. -/
theorem Tracks.enbUesAdded (h : Tracks t past) (s' t' : S1Mme) (slot : Option EnbUeId) :
    Tracks t (s'.enbUesAdded t' slot ++ past) := by
  unfold S1Mme.enbUesAdded
  split
  · split
    · constructor
      · exact h.distinct
      · intro u target htarget endPoint hlast
        rw [List.singleton_append, lastAdmission_cons_of_none rfl] at hlast
        exact h.endPoint u target htarget endPoint hlast
    · exact h
  · exact h

/-! ### A bearer is added -/

/-- A bearer with an identity of its own is added, whatever its slot holds. -/
theorem Tracks.bearerAdded (h : Tracks s past) (hothers : ∀ u, u ≠ mmeUe →
      t.mmeUes.mem u = s.mmeUes.mem u)
    (hperm : (t.mmeUes.mem mmeUe).bearers.Perm (bearer :: (s.mmeUes.mem mmeUe).bearers))
    (hfresh : ∀ b ∈ (s.mmeUes.mem mmeUe).bearers, b.ebi ≠ bearer.ebi) :
    Tracks t (.bearerAdded mmeUe bearer.ebi :: past) := by
  have htargets : (t.mmeUes.mem mmeUe).targets.Perm
      (bearer.target :: (s.mmeUes.mem mmeUe).targets) := hperm.map _
  constructor
  · intro u
    by_cases hu : u = mmeUe
    · subst hu
      rw [(htargets.map Prod.fst).nodup_iff, List.map_cons, List.nodup_cons]
      refine ⟨?_, h.distinct u⟩
      rw [S1MmeUe.targets, List.map_map, List.mem_map]
      rintro ⟨b, hb, heq⟩
      exact hfresh b hb heq
    · rw [hothers u hu]
      exact h.distinct u
  · intro u target htarget endPoint hlast
    rw [lastAdmission_bearerAdded] at hlast
    split at hlast
    · cases hlast
    case isFalse hne =>
      apply h.endPoint u target _ endPoint hlast
      by_cases hu : u = mmeUe
      · subst hu
        rcases List.mem_cons.mp (htargets.subset htarget) with rfl | hmem
        · exact absurd ⟨rfl, rfl⟩ hne
        · exact hmem
      · rwa [hothers u hu] at htarget

theorem bearers_mmeSessAdd : ((s.mmeSessAdd mmeUe bearer).mmeUes.mem mmeUe).bearers.Perm
    (bearer :: (s.mmeUes.mem mmeUe).bearers) := by
  have heq : ((s.mmeSessAdd mmeUe bearer).mmeUes.mem mmeUe).bearers =
      (s.mmeUes.mem mmeUe).bearers ++ [bearer] := by
    simp [S1Mme.mmeSessAdd, S1Mme.modifyMmeUe, S1MmeUe.bearers]
  rw [heq]
  exact List.perm_append_singleton bearer _

theorem flatMap_modify_perm (sessList : List S1Sess) {sess : Nat} (h : sess < sessList.length) :
    ((sessList.modify sess fun sess =>
      { sess with bearerList := sess.bearerList ++ [bearer] }).flatMap S1Sess.bearerList).Perm
      (bearer :: sessList.flatMap S1Sess.bearerList) := by
  induction sessList generalizing sess with
  | nil => exact absurd h (Nat.not_lt_zero _)
  | cons head sessList ih =>
    cases sess with
    | zero =>
      simp only [List.modify_zero_cons, List.flatMap_cons, List.append_assoc,
        List.singleton_append]
      exact List.perm_middle
    | succ sess =>
      simp only [List.modify_succ_cons, List.flatMap_cons]
      refine (List.Perm.append_left _ (ih (by simpa using h))).trans ?_
      exact List.perm_middle

theorem bearers_mmeBearerAdd {sess : Nat} (h : sess < (s.mmeUes.mem mmeUe).sessList.length) :
    ((s.mmeBearerAdd mmeUe sess bearer).mmeUes.mem mmeUe).bearers.Perm
      (bearer :: (s.mmeUes.mem mmeUe).bearers) := by
  simpa [S1Mme.mmeBearerAdd, S1Mme.modifyMmeUe, S1MmeUe.bearers]
    using flatMap_modify_perm (s.mmeUes.mem mmeUe).sessList h

/-! ### A target admits bearers -/

theorem Tracks.admitted (h : Tracks s past) {ebi : UInt8} {endPoint : GtpEndPoint}
    (targetUe : EnbUeId) :
    Tracks (s.writeBearer mmeUe ebi fun bearer => { bearer with targetS1u := endPoint })
      (.admitted targetUe mmeUe ebi endPoint :: past) := by
  have hue : ∀ u, ((s.writeBearer mmeUe ebi fun bearer =>
      { bearer with targetS1u := endPoint }).mmeUes.mem u).targets =
      (s.mmeUes.mem u).targets.map fun target =>
        if u = mmeUe ∧ target.1 = ebi then (target.1, endPoint) else target := by
    intro u
    by_cases hu : u = mmeUe
    · subst hu
      have hdistinct : ((s.mmeUes.mem u).bearers.map S1Bearer.ebi).Nodup := by
        have hnodup := h.distinct u
        rwa [S1MmeUe.targets, List.map_map] at hnodup
      simp only [S1Mme.writeBearer, S1Mme.modifyMmeUe, Pool.mem_modify, if_true, S1MmeUe.targets,
        bearers_updateBearer, updateFirst_eq_map hdistinct, List.map_map, true_and]
      apply List.map_congr_left
      intro bearer _
      by_cases hebi : bearer.ebi = ebi
      · simp [S1Bearer.target, hebi]
      · simp [S1Bearer.target, hebi]
    · simp [S1Mme.writeBearer, S1Mme.modifyMmeUe, hu]
  constructor
  · intro u
    have hfst : (Prod.fst ∘ fun target : UInt8 × GtpEndPoint =>
        if u = mmeUe ∧ target.1 = ebi then (target.1, endPoint) else target) = Prod.fst := by
      funext target
      simp only [Function.comp_apply]
      split
      · rfl
      · rfl
    rw [hue, List.map_map, hfst]
    exact h.distinct u
  · intro u target htarget last hlast
    rw [hue, List.mem_map] at htarget
    obtain ⟨old, hold, rfl⟩ := htarget
    rw [lastAdmission_admitted] at hlast
    by_cases hsame : u = mmeUe ∧ old.1 = ebi
    · simp only [hsame, and_self, if_true, Option.some.injEq] at hlast ⊢
      exact hlast
    · rw [if_neg hsame] at hlast ⊢
      rw [if_neg fun hne => hsame ⟨hne.1.symm, hne.2.symm⟩] at hlast
      exact h.endPoint u old hold last hlast

/-- An E-RAB of an Acknowledge -/
theorem Tracks.admitErab (h : Tracks s past) (targetUe : EnbUeId) (erab : S1apErabAdmitted) :
    Ensures (s.admitErab mmeUe erab) fun t => Tracks t
      (.admitted targetUe mmeUe erab.eRabId ⟨ntohl erab.gTpTeid, erab.transportLayerAddress⟩ ::
        past) := by
  apply ensures_bind
  intro _ _
  apply ensures_bind
  intro ip hip
  obtain ⟨-, -, hip⟩ := bind_eq_ok.mp hip
  cases hip
  have hadmitted := Related.refl targetsKept_frame (s.writeBearer mmeUe erab.eRabId fun bearer =>
    { bearer with targetS1u := ⟨ntohl erab.gTpTeid, erab.transportLayerAddress⟩ })
  have hdl : ∀ (ue : S1MmeUe) endPoint, TargetsKept ue (ue.updateBearer erab.eRabId
      fun bearer => { bearer with enbDl := endPoint }) :=
    fun ue _ => targetsKept_updateBearer ue _ fun _ => rfl
  have hul : ∀ (ue : S1MmeUe) endPoint, TargetsKept ue (ue.updateBearer erab.eRabId
      fun bearer => { bearer with enbUl := endPoint }) :=
    fun ue _ => targetsKept_updateBearer ue _ fun _ => rfl
  refine (hadmitted.setForwarding targetsKept_frame mmeUe _ _ hdl).bind ?_
  intro r hr
  refine (hr.setForwarding targetsKept_frame mmeUe _ _ hul).mono ?_
  exact fun t ht => (h.admitted targetUe).kept ht.1

theorem Tracks.admitErabs (h : Tracks s past) (targetUe : EnbUeId) (list : List S1apErabAdmitted) :
    Ensures (list.foldlM (fun s erab => s.admitErab mmeUe erab) s) fun t => Tracks t
      ((list.map fun erab => HandoverItem.admitted targetUe mmeUe erab.eRabId
        ⟨ntohl erab.gTpTeid, erab.transportLayerAddress⟩).reverse ++ past) := by
  induction list generalizing s past with
  | nil => exact ensures_ok h
  | cons erab list ih =>
    rw [List.foldlM_cons]
    refine (h.admitErab targetUe erab).bind ?_
    intro r hr
    rw [List.map_cons, List.reverse_cons, List.append_assoc, List.singleton_append]
    exact ih hr

theorem Tracks.handoverRequestAck {ies : S1apIes} (h : Tracks s past) :
    Ensures (s.s1apHandleHandoverRequestAck ies) fun t => Tracks t (s.admissions ies ++ past) := by
  apply ensures_assertSome
  intro id hid
  apply ensures_assertSome
  intro enbUeS1apId _
  apply ensures_assertSome
  intro list hlist
  apply ensures_assertSome
  intro container _
  apply ensures_assertSome
  intro targetUe hfind
  apply ensures_assertSome
  intro sourceUe hsource
  apply ensures_assertMmeUe
  intro u hu
  -- the links are those from before the identity was written
  have hitems : s.admissions ies = (list.map fun erab => HandoverItem.admitted targetUe u
      erab.eRabId ⟨ntohl erab.gTpTeid, erab.transportLayerAddress⟩).reverse := by
    have hsource' : (s.enbUes.mem targetUe).sourceUe = some sourceUe := by
      rw [← hsource, apply_modifyEnbUe S1EnbUe.sourceUe]
      exact fun _ => rfl
    have hu' : (s.enbUes.mem sourceUe).mmeUe = some u := by
      rw [← hu, apply_modifyEnbUe S1EnbUe.mmeUe]
      exact fun _ => rfl
    simp [admissions, handoverOf, hid, hfind, hsource', hu', hlist]
  rw [hitems]
  have hset : Tracks (s.modifyEnbUe targetUe fun e => { e with enbUeS1apId := enbUeS1apId }) past :=
    ⟨h.distinct, h.endPoint⟩
  refine (hset.admitErabs targetUe list).bind ?_
  intro r hr
  have hkept : Related TargetsKept r
      (r.modifyMmeUe u fun ue => { ue with container := some container }) :=
    (Related.refl targetsKept_frame r).modifySame targetsKept_frame fun _ => ⟨rfl, rfl, rfl⟩
  have hstored := hr.kept hkept.1
  apply ensures_ite
  · exact fun _ => ensures_ok ⟨hstored.distinct, hstored.endPoint⟩
  · exact fun _ => ensures_ok ⟨hstored.distinct, hstored.endPoint⟩

/-! ### All messages -/

theorem targetsKept_of_notified (h : Notified s mmeUe t) (u : MmeUeId) :
    TargetsKept (s.mmeUes.mem u) (t.mmeUes.mem u) := by
  by_cases hu : u = mmeUe
  · subst hu
    rw [TargetsKept, S1MmeUe.targets, h.bearers, List.map_map]
    exact List.Sublist.refl _
  · rw [h.others u hu]
    exact List.Sublist.refl _

theorem Tracks.s1apHandle [Ogslib] [OgsCrypt] {env : S1apEnv} {enb : MmeEnbId} {ies : S1apIes}
    {procedure : S1apProcedure} (h : Tracks s past)
    (ht : s.s1apHandle env enb ies procedure = .ok t) :
    Tracks t (s.handoverItems t env ies procedure ++ past) := by
  by_cases hmore : WritesMore procedure
  · cases procedure with
    | pathSwitchRequest =>
      have hkept := related_pathSwitchRequest targetsKept_frame
        (fun _ => targets_of_bearers_eq rfl) t ht
      exact (h.kept hkept.1).enbUesAdded s t env.slot
    | handoverRequestAck => exact h.handoverRequestAck t ht
    | handoverNotification =>
      obtain ⟨_, _, -, hnotified⟩ := notified_handoverNotification ht
      exact (h.kept (targetsKept_of_notified hnotified)).enbUesAdded s t env.slot
    | _ => exact absurd hmore id
  · have hkept := related_s1apHandle targetsKept_frame env hmore t ht
    cases procedure with
    | handoverRequestAck => exact absurd trivial hmore
    | _ => exact (h.kept hkept.1).enbUesAdded s t env.slot

/-- A step in which a new bearer has an identity of its own keeps track. -/
theorem Tracks.step [Ogslib] [OgsCrypt] {label : Event × HandoverRun} (h : Tracks r.mme r.past)
    (hstep : Lts.Restrict FreshIdentity Step r label q) : Tracks q.mme q.past := by
  obtain ⟨hfresh, hstep⟩ := hstep
  cases hstep with
  | s1ap ht => exact h.s1apHandle ht
  | mmeSessAdd u bearer =>
    refine h.bearerAdded (fun v hv => ?_) bearers_mmeSessAdd hfresh
    simp [S1Mme.mmeSessAdd, S1Mme.modifyMmeUe, hv]
  | mmeBearerAdd bearer hsess =>
    refine h.bearerAdded (fun v hv => ?_) (bearers_mmeBearerAdd hsess) hfresh
    simp [S1Mme.mmeBearerAdd, S1Mme.modifyMmeUe, hv]
  | other ht => exact h.kept ht.mmeUes

/-- All bearers of the UE are switched to the end points that are stored for a target, and reported.
It is right where the target has admitted all of them. -/
theorem switched_all_iff (h : Tracks s past) (targetUe : EnbUeId) :
    (s.mmeUes.mem mmeUe).bearers.map (fun bearer => { bearer with enbS1u := bearer.targetS1u }) =
        (s.mmeUes.mem mmeUe).bearers.map (switched past targetUe mmeUe) ∧
      (s.sent ++ (s.mmeUes.mem mmeUe).bearers.map fun bearer =>
          S1Sent.toSgw mmeUe (.modifyBearerRequest bearer.ebi true)) =
        s.sent ++ ((s.mmeUes.mem mmeUe).bearers.filter fun bearer =>
          (admission past targetUe mmeUe bearer.ebi).isSome).map (fun bearer =>
            S1Sent.toSgw mmeUe (.modifyBearerRequest bearer.ebi true)) ↔
      ∀ bearer ∈ (s.mmeUes.mem mmeUe).bearers, ∃ endPoint,
        admission past targetUe mmeUe bearer.ebi = some endPoint ∧
        lastAdmission past mmeUe bearer.ebi = some endPoint := by
  have hstored : ∀ bearer ∈ (s.mmeUes.mem mmeUe).bearers, ∀ endPoint,
      lastAdmission past mmeUe bearer.ebi = some endPoint → bearer.targetS1u = endPoint :=
    fun bearer hbearer => h.endPoint mmeUe bearer.target (List.mem_map_of_mem hbearer)
  constructor
  · rintro ⟨hbearers, hsent⟩ bearer hbearer
    -- as many bearers are reported as there are
    have hall : ((s.mmeUes.mem mmeUe).bearers.filter fun bearer =>
        (admission past targetUe mmeUe bearer.ebi).isSome) = (s.mmeUes.mem mmeUe).bearers := by
      have hlength := congrArg List.length (List.append_cancel_left hsent)
      rw [List.length_map, List.length_map] at hlength
      exact List.filter_sublist.eq_of_length hlength.symm
    obtain ⟨endPoint, hadmission⟩ :=
      Option.isSome_iff_exists.mp (List.filter_eq_self.mp hall bearer hbearer)
    obtain ⟨last, hlast⟩ := lastAdmission_of_admission hadmission
    have hsame : bearer.targetS1u = endPoint := by
      have hswitched := List.map_inj_left.mp hbearers bearer hbearer
      rw [switched, hadmission] at hswitched
      exact congrArg S1Bearer.enbS1u hswitched
    rw [hstored bearer hbearer last hlast] at hsame
    rw [hsame] at hlast
    exact ⟨endPoint, hadmission, hlast⟩
  · intro hadmits
    constructor
    · apply List.map_congr_left
      intro bearer hbearer
      obtain ⟨endPoint, hadmission, hlast⟩ := hadmits bearer hbearer
      rw [switched, hadmission, hstored bearer hbearer endPoint hlast]
    · rw [List.filter_eq_self.mpr]
      intro bearer hbearer
      obtain ⟨endPoint, hadmission, -⟩ := hadmits bearer hbearer
      rw [hadmission, Option.isSome_some]

theorem switchesAdmitted_iff [Ogslib] [OgsCrypt] {label : Event × HandoverRun}
    (h : Tracks r.mme r.past) (hstep : Step r label q) :
    SwitchesAdmitted (label, q) ↔ AdmitsAll r label := by
  cases hstep with
  | @s1ap t env enb ies procedure ht =>
    cases procedure with
    | handoverNotification =>
      obtain ⟨targetUe, u, hof, hnotified⟩ := notified_handoverNotification ht
      refine forall_congr' fun targetUe' => forall_congr' fun u' => forall_congr' fun hof' => ?_
      cases hof.symm.trans hof'
      rw [hnotified.bearers, hnotified.sent]
      exact switched_all_iff h targetUe
    | _ => exact Iff.rfl
  | _ => exact Iff.rfl

end

end HandoverRun

open HandoverRun

/-- In every run in which new bearers have identities of their own, all Handover Notifies switch the
bearers that were admitted in the handover, and no others, if and only if all bearers were. -/
theorem handover_switches_iff [Ogslib] [OgsCrypt] (tr : List ((Event × HandoverRun) × HandoverRun))
    (htr : Lts.Trace (Lts.Restrict FreshIdentity Step) initial tr) :
    (∀ p ∈ tr, SwitchesAdmitted p) ↔
      Lts.Trace (Lts.Restrict AdmitsAll (Lts.Restrict FreshIdentity Step)) initial tr := by
  apply Lts.Trace.labels_iff (J := fun r => Tracks r.mme r.past)
  · exact fun _ _ _ h hstep => h.step hstep
  · exact fun _ _ _ h hstep => switchesAdmitted_iff h hstep.2
  · exact htr
  · constructor
    · exact fun u => List.nodup_nil
    · exact fun u target htarget => absurd htarget List.not_mem_nil

open S1Mme hiding initial

namespace HandoverRun

/-- The identity of the eNB that is the target -/
def sampleEnbId : S1apEnbId := .macroEnbId #v[0, 0, 0x30]

/-- The elements of an S1 Setup Request of the target -/
def setupIes : S1apIes where
  globalEnbId := some sampleEnbId
  supportedTas := some [([0, 1], [[0, 0xf1, 0x10]])]

/-- The elements of a Handover Required and of a Handover Cancel for the UE on the first
connection -/
def requiredIes : S1apIes where
  targetId := some (.targetEnbId sampleEnbId)
  enbUeS1apId := some 5
  mmeUeS1apId := some 1
  handoverType := some 0
  cause := some ⟨.radioNetwork, 0⟩

/-- The elements of a Handover Request Acknowledge -/
def ackIes (mmeUeS1apId : UInt32) (list : List (UInt8 × UInt8)) : S1apIes where
  mmeUeS1apId := some mmeUeS1apId
  enbUeS1apId := some 7
  eRabAdmittedList := some (list.map fun erab =>
    { eRabId := erab.1
      transportLayerAddress := [10, 0, 0, 3]
      gTpTeid := #v[0, 0, 0, erab.2]
      dL := none
      uL := none })
  targetToSourceTransparentContainer := some []

/-- The elements of a Handover Notify -/
def sampleNotifyIes (mmeUeS1apId : UInt32) : S1apIes where
  mmeUeS1apId := some mmeUeS1apId
  enbUeS1apId := some 7
  tai := some ⟨[0, 0xf1, 0x10], [0, 2]⟩
  eutranCgi := some ⟨[0, 0xf1, 0x10], [0, 0, 0, 0x20]⟩

def sampleBearer (ebi : UInt8) : S1Bearer where
  ebi := ebi
  sm := .active
  enbS1u := ⟨100, [10, 0, 0, 1]⟩
  sgwS1u := ⟨1, [10, 0, 0, 2]⟩
  targetS1u := ⟨0, []⟩
  enbDl := ⟨0, []⟩
  enbUl := ⟨0, []⟩
  sgwDl := ⟨0, []⟩
  sgwUl := ⟨0, []⟩
  xact := none

/-- A UE with a valid security context is added to a connection. -/
def sampleUe (s : S1Mme) : S1Mme :=
  (s.mmeUeAdd 1 9 sampleSTmsi).modifyMmeUe 9 fun ue =>
    { ue with toMmeUe := { ue.toMmeUe with securityContextAvailable := true } }

/-- The UE gets two bearers. -/
def sampleBearers (s : S1Mme) : S1Mme :=
  (s.mmeSessAdd 9 (sampleBearer 5)).mmeBearerAdd 9 0 (sampleBearer 6)

/-- A UE with two bearers is to be handed over. -/
def sampleRequired [Ogslib] [OgsCrypt] : MmeM S1Mme := do
  let a ← S1Mme.initial.s1apHandle (sampleEnv 1) 3 setupIes .s1SetupRequest
  let b ← a.s1apHandle (sampleEnv 1) 1 (sampleIes 5 none) .initialUeMessage
  (sampleBearers (sampleUe b)).s1apHandle (sampleEnv 2) 1 requiredIes .handoverRequired

theorem elsewhere_sampleUe {s : S1Mme} (h : (s.mmeUes.mem 9).enbUe = none) :
    s.Elsewhere (sampleUe s) := by
  have hadd : s.mmeUeAdd 1 9 sampleSTmsi = { s with
      mmeUes := s.mmeUes.alloc 9
      gutiUeHash := Function.update s.gutiUeHash sampleSTmsi (some 9) }.mmeUeAssociateEnbUe 9 1 := by
    simp [S1Mme.mmeUeAdd, associateSTmsi, h]
  constructor
  · intro x hx
    simpa [sampleUe, hadd, mmeUeAssociateEnbUe, S1Mme.modifyEnbUe, S1Mme.modifyMmeUe] using hx
  · intro u
    apply targets_of_bearers_eq
    by_cases hu : u = 9
    · simp [sampleUe, hadd, mmeUeAssociateEnbUe, S1Mme.modifyEnbUe, S1Mme.modifyMmeUe,
        S1MmeUe.bearers, hu]
    · simp [sampleUe, hadd, mmeUeAssociateEnbUe, S1Mme.modifyEnbUe, S1Mme.modifyMmeUe, hu]

/-- The steps that the conditions are about are Handover Notifies and new bearers. -/
def Proper [Ogslib] [OgsCrypt] : HandoverRun → Event × HandoverRun → HandoverRun → Prop :=
  Lts.Restrict AdmitsAll (Lts.Restrict FreshIdentity Step)

theorem proper_s1ap [Ogslib] [OgsCrypt] {r : HandoverRun} {t : S1Mme} {env : S1apEnv}
    {enb : MmeEnbId} {ies : S1apIes} {procedure : S1apProcedure}
    (h : r.mme.s1apHandle env enb ies procedure = .ok t) (hne : procedure ≠ .handoverNotification) :
    Proper r (.s1ap env enb ies procedure, r)
      ⟨t, r.mme.handoverItems t env ies procedure ++ r.past⟩ := by
  refine ⟨?_, trivial, .s1ap h⟩
  cases procedure with
  | handoverNotification => exact absurd rfl hne
  | _ => trivial

/-- No step of the run up to the Handover Required is a Handover Notify. -/
theorem trace_sampleRequired {c : S1Mme}
    (hc : @sampleRequired Ogslib.reference OgsCrypt.reference = .ok c) :
    ∃ tr past, Lts.finalState initial tr = ⟨c, past⟩ ∧
      Lts.Trace (@Proper Ogslib.reference OgsCrypt.reference) initial tr := by
  let _ := Ogslib.reference
  let _ := OgsCrypt.reference
  obtain ⟨a, b, ha, hb, hue, hnone, hone, hsess⟩ : ∃ a b : S1Mme,
      S1Mme.initial.s1apHandle (sampleEnv 1) 3 setupIes .s1SetupRequest = .ok a ∧
      a.s1apHandle (sampleEnv 1) 1 (sampleIes 5 none) .initialUeMessage = .ok b ∧
      (b.mmeUes.mem 9).enbUe = none ∧ ((sampleUe b).mmeUes.mem 9).bearers = [] ∧
      (((sampleUe b).mmeSessAdd 9 (sampleBearer 5)).mmeUes.mem 9).bearers = [sampleBearer 5] ∧
      0 < (((sampleUe b).mmeSessAdd 9 (sampleBearer 5)).mmeUes.mem 9).sessList.length :=
    ⟨_, _, rfl, rfl, rfl, rfl, rfl, Nat.zero_lt_one⟩
  rw [sampleRequired, ha, ok_bind, hb, ok_bind] at hc
  have hother : ∀ past, Proper ⟨b, past⟩ (.other, ⟨b, past⟩) ⟨sampleUe b, past⟩ :=
    fun past => ⟨trivial, trivial, .other (elsewhere_sampleUe hue)⟩
  have hfive : ∀ past, Proper ⟨sampleUe b, past⟩ (.mmeSessAdd 9 (sampleBearer 5), ⟨sampleUe b, past⟩)
      ⟨(sampleUe b).mmeSessAdd 9 (sampleBearer 5), .bearerAdded 9 5 :: past⟩ := by
    refine fun past => ⟨trivial, ?_, .mmeSessAdd 9 (sampleBearer 5)⟩
    change ∀ bearer ∈ ((sampleUe b).mmeUes.mem 9).bearers, bearer.ebi ≠ 5
    rw [hnone]
    exact fun _ h => absurd h List.not_mem_nil
  have hsix : ∀ past, Proper ⟨(sampleUe b).mmeSessAdd 9 (sampleBearer 5), past⟩
      (.mmeBearerAdd 9 0 (sampleBearer 6), ⟨(sampleUe b).mmeSessAdd 9 (sampleBearer 5), past⟩)
      ⟨sampleBearers (sampleUe b), .bearerAdded 9 6 :: past⟩ := by
    refine fun past => ⟨trivial, ?_, .mmeBearerAdd (sampleBearer 6) hsess⟩
    change ∀ bearer ∈ (((sampleUe b).mmeSessAdd 9 (sampleBearer 5)).mmeUes.mem 9).bearers,
      bearer.ebi ≠ 6
    rw [hone]
    decide
  exact ⟨_, _, rfl, .cons (proper_s1ap ha nofun) (.cons (proper_s1ap hb nofun)
    (.cons (hother _) (.cons (hfive _) (.cons (hsix _) (.cons (proper_s1ap hc nofun) (.nil _))))))⟩

end HandoverRun

/-- The target admits both bearers of a UE. -/
theorem handover_switches_both : ∃ tr r t,
    Lts.Trace (@HandoverRun.Step Ogslib.reference OgsCrypt.reference) initial tr ∧
    ((.s1ap (sampleEnv 2) 3 (sampleNotifyIes 2) .handoverNotification, r), t) ∈ tr ∧
    ∀ p ∈ tr, SwitchesAdmitted p := by
  let _ := Ogslib.reference
  let _ := OgsCrypt.reference
  obtain ⟨c, d, e, hc, hd, he, hof, hbearers, hadmits⟩ : ∃ c d e : S1Mme,
      sampleRequired = .ok c ∧
      c.s1apHandle (sampleEnv 2) 3 (ackIes 2 [(5, 15), (6, 16)]) .handoverRequestAck = .ok d ∧
      d.s1apHandle (sampleEnv 2) 3 (sampleNotifyIes 2) .handoverNotification = .ok e ∧
      d.handoverOf ((sampleNotifyIes 2).enbUeS1apId.bind (d.enbUeFindByEnbUeS1apId 3)) =
        some (2, 9) ∧
      (d.mmeUes.mem 9).bearers.map S1Bearer.ebi = [5, 6] ∧
      c.admissions (ackIes 2 [(5, 15), (6, 16)]) =
        [.admitted 2 9 6 ⟨16, [10, 0, 0, 3]⟩, .admitted 2 9 5 ⟨15, [10, 0, 0, 3]⟩] :=
    ⟨_, _, _, rfl, rfl, rfl, rfl, rfl, rfl⟩
  obtain ⟨tr, past, hfinal, hrequired⟩ := trace_sampleRequired hc
  have hnotify : ∀ past, Proper ⟨d, c.admissions (ackIes 2 [(5, 15), (6, 16)]) ++ past⟩
      (.s1ap (sampleEnv 2) 3 (sampleNotifyIes 2) .handoverNotification,
        ⟨d, c.admissions (ackIes 2 [(5, 15), (6, 16)]) ++ past⟩)
      ⟨e, d.handoverItems e (sampleEnv 2) (sampleNotifyIes 2) .handoverNotification ++
        (c.admissions (ackIes 2 [(5, 15), (6, 16)]) ++ past)⟩ := by
    refine fun past => ⟨?_, trivial, .s1ap he⟩
    intro targetUe u hof'
    cases hof.symm.trans hof'
    intro bearer hbearer
    have hebi : bearer.ebi ∈ [5, 6] := hbearers ▸ List.mem_map_of_mem hbearer
    rw [hadmits]
    simp only [List.mem_cons, List.not_mem_nil, or_false] at hebi
    rcases hebi with hebi | hebi
    · exact ⟨⟨15, [10, 0, 0, 3]⟩, by rw [hebi]; rfl, by rw [hebi]; rfl⟩
    · exact ⟨⟨16, [10, 0, 0, 3]⟩, by rw [hebi]; rfl, by rw [hebi]; rfl⟩
  have hrest := Lts.Trace.cons (proper_s1ap (r := ⟨c, past⟩) hd (by rintro ⟨⟩))
    (.cons (hnotify past) (.nil _))
  rw [← hfinal] at hrest
  have htr := hrequired.append hrest
  have hfresh := htr.mono fun _ _ _ h => h.2
  exact ⟨_, _, _, hfresh.mono fun _ _ _ h => h.2,
    List.mem_append_right _ (List.mem_cons_of_mem _ List.mem_cons_self),
    (handover_switches_iff _ hfresh).mpr htr⟩

/-- A handover is cancelled, and the target of the next one admits one of two bearers: the other is
switched to what the first target has admitted it with. -/
theorem handover_switches_stale :
    ¬∀ r, Lts.Reaches (@HandoverRun.Step Ogslib.reference OgsCrypt.reference) initial r →
      ∀ label q, @HandoverRun.Step Ogslib.reference OgsCrypt.reference r label q →
        SwitchesAdmitted (label, q) := by
  intro hclaim
  let _ := Ogslib.reference
  let _ := OgsCrypt.reference
  obtain ⟨c, d, e, f, g, h, i, hc, hd, he, hf, hg, hh, hi, hof, hadded, hadmits, hbearers,
      hswitched⟩ : ∃ c d e f g h i : S1Mme, sampleRequired = .ok c ∧
      c.s1apHandle (sampleEnv 2) 3 (ackIes 2 [(5, 15), (6, 16)]) .handoverRequestAck = .ok d ∧
      d.s1apHandle (sampleEnv 2) 1 requiredIes .handoverCancel = .ok e ∧
      e.s1apHandle (sampleEnv 2) 3 { mmeUeS1apId := some 2 } .ueContextReleaseComplete = .ok f ∧
      f.s1apHandle (sampleEnv 2) 1 requiredIes .handoverRequired = .ok g ∧
      g.s1apHandle (sampleEnv 2) 3 (ackIes 3 [(5, 25)]) .handoverRequestAck = .ok h ∧
      h.s1apHandle (sampleEnv 2) 3 (sampleNotifyIes 3) .handoverNotification = .ok i ∧
      h.handoverOf ((sampleNotifyIes 3).enbUeS1apId.bind (h.enbUeFindByEnbUeS1apId 3)) =
        some (2, 9) ∧
      f.enbUesAdded g (some 2) = [.enbUeAdded 2] ∧
      g.admissions (ackIes 3 [(5, 25)]) = [.admitted 2 9 5 ⟨25, [10, 0, 0, 3]⟩] ∧
      (h.mmeUes.mem 9).bearers.map (fun bearer => (bearer.ebi, bearer.enbS1u.teid)) =
        [(5, 100), (6, 100)] ∧
      (i.mmeUes.mem 9).bearers.map (fun bearer => (bearer.ebi, bearer.enbS1u.teid)) =
        [(5, 25), (6, 16)] :=
    ⟨_, _, _, _, _, _, _, rfl, rfl, rfl, rfl, rfl, rfl, rfl, rfl, rfl, rfl, rfl, rfl⟩
  obtain ⟨tr, past, hfinal, hrequired⟩ := trace_sampleRequired hc
  have hrun : Lts.Trace HandoverRun.Step _ tr := hrequired.mono fun _ _ _ h => h.2.2
  have hreaches := hrun.reaches_final
  rw [hfinal] at hreaches
  have hlast := (hclaim _ (((((hreaches.snoc (.s1ap hd)).snoc (.s1ap he)).snoc (.s1ap hf)).snoc
    (.s1ap hg)).snoc (.s1ap hh)) _ _ (.s1ap hi) 2 9 hof).1
  have hmem : ((6, 100) : UInt8 × UInt32) ∈
      (h.mmeUes.mem 9).bearers.map fun bearer => (bearer.ebi, bearer.enbS1u.teid) := by
    rw [hbearers]
    decide
  obtain ⟨bearer, hbearer, hsix⟩ := List.mem_map.mp hmem
  -- nothing was admitted for the bearer since the second handover began
  have hsame : ∀ past,
      switched (g.admissions (ackIes 3 [(5, 25)]) ++ (f.enbUesAdded g (some 2) ++ past)) 2 9 bearer =
        bearer := by
    intro past
    rw [hadmits, hadded, switched, (Prod.mk.inj hsix).1]
    rfl
  have hkept : ((6, 100) : UInt8 × UInt32) ∈
      (i.mmeUes.mem 9).bearers.map fun bearer => (bearer.ebi, bearer.enbS1u.teid) := by
    rw [← hsix]
    apply List.mem_map_of_mem (f := fun bearer : S1Bearer => (bearer.ebi, bearer.enbS1u.teid))
    rw [hlast, List.mem_map]
    exact ⟨bearer, hbearer, hsame _⟩
  rw [hswitched] at hkept
  exact absurd hkept (by decide)

end NextEpc

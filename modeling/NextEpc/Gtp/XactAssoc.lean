import NextEpc.Lib.Matching
import NextEpc.Gtp.XactSystem

/-!
# Associated transactions

A node that answers one peer after asking another associates the two transactions. The
partners of all live transactions form a matching, whichever of two partners is committed,
times out or is deleted first, and so deleting a transaction never fails.
-/

namespace NextEpc

open Matching

/-- The transaction that `assoc_xact` of a live transaction points to. -/
def GtpState.partner (s : GtpState) (i : XactIdx) : Option XactIdx :=
  (s.pool i).bind (·.assocXact)

/-- Two transactions are associated only if they differ, and deassociated only if they
are partners. -/
def AssocOk (s : GtpState) (label : XactOp × XactOut) : Prop :=
  match label.1 with
  | .associate i j => i ≠ j
  | .deassociate i j => s.partner i = some j
  | _ => True

/-- The states reached by runs in which every call is `AssocOk`. -/
def AssocReachable [Ogslib] (s : GtpState) : Prop :=
  Lts.Reaches (Lts.Restrict AssocOk XactStep) GtpState.init s

theorem AssocReachable.init [Ogslib] : AssocReachable GtpState.init :=
  Relation.ReflTransGen.refl

theorem AssocReachable.next [Ogslib] {s t : GtpState} {op : XactOp} {out : XactOut}
    (h : AssocReachable s) (hen : op.Enabled s) (hok : AssocOk s (op, out))
    (hex : op.exec s = .ok (t, out)) : AssocReachable t :=
  Relation.ReflTransGen.tail h ⟨(op, out), hok, hen, hex⟩

section
variable {s t : GtpState} {i j : XactIdx} {x y : GtpXact}

theorem partner_eq_some : s.partner i = some j ↔ ∃ x, s.pool i = some x ∧ x.assocXact = some j := by
  simp [GtpState.partner, Option.bind_eq_some_iff]

theorem partner_of_pool (hx : s.pool i = some x) : s.partner i = x.assocXact := by
  simp [GtpState.partner, hx]

@[simp] theorem sendto_partner (n : NodeId) (ps : List Bytes) :
    (s.sendto n ps).partner = s.partner := rfl

theorem set_partner (hx : s.pool i = some x) (h : y.assocXact = x.assocXact) :
    (s.set i y).partner = s.partner := by
  funext k
  by_cases hk : k = i
  · subst hk
    rw [partner_of_pool hx, ← h]
    simp [GtpState.partner]
  · simp [GtpState.partner, hk]

theorem set_partner_update (a : Option XactIdx) :
    (s.set i { x with assocXact := a }).partner = Function.update s.partner i a := by
  funext k
  by_cases hk : k = i
  · subst hk
    simp [GtpState.partner]
  · simp [GtpState.partner, hk]

theorem insert_partner [Ogslib] {u : GtpState} (hu : u.pool = s.pool) (hi : s.pool i = none)
    (h : x.assocXact = none) : (u.insert i x).partner = s.partner := by
  funext k
  by_cases hk : k = i
  · subst hk
    simp [GtpState.partner, hi, h]
  · simp [GtpState.partner, hk, hu]

theorem remove_partner (h : s.partner i = none) : (s.remove i x).partner = s.partner := by
  funext k
  by_cases hk : k = i
  · subst hk
    rw [h]
    simp [GtpState.partner]
  · simp [GtpState.partner, hk]

theorem set_matching (hm : IsMatching s.partner) (hx : s.pool i = some x)
    (h : y.assocXact = x.assocXact) : IsMatching (s.set i y).partner := by
  rw [set_partner hx h]
  exact hm

theorem insert_matching [Ogslib] {u : GtpState} (hm : IsMatching s.partner)
    (hu : u.pool = s.pool) (hi : s.pool i = none) (h : x.assocXact = none) :
    IsMatching (u.insert i x).partner := by
  rw [insert_partner hu hi h]
  exact hm

theorem TxCase.assocXact {hdesc : GtpHeader} {pkbuf : Bytes} (h : TxCase x hdesc pkbuf y) :
    y.assocXact = x.assocXact := by
  cases h <;> rfl

theorem RxCase.assocXact {type : UInt8} {b : Bool} {rv : Rv} {pkbufs : List Bytes}
    (h : RxCase x type b rv y pkbufs) : y.assocXact = x.assocXact := by
  cases h <;> rfl

theorem CommitCase.assocXact (h : CommitCase x y) : y.assocXact = x.assocXact := by
  cases h <;> rfl

theorem associate_partner (h : ogsGtpXactAssociate s i j = .ok t) :
    s.partner i = none ∧ s.partner j = none ∧ t.partner = link s.partner i j := by
  unfold ogsGtpXactAssociate at h
  simp only [Fallible.bind_eq_ok, GtpState.find_eq_ok, Fallible.assert_eq_ok,
    Fallible.pure_eq_ok, Except.ok.injEq] at h
  obtain ⟨x, hx, z, hz, -, hxn, -, hzn, z', hz', rfl⟩ := h
  refine ⟨by rw [partner_of_pool hx, hxn], by rw [partner_of_pool hz, hzn], ?_⟩
  rw [set_partner_update, set_partner_update]
  rfl

theorem deassociate_partner (h : ogsGtpXactDeassociate s i j = .ok t) :
    t.partner = unlink s.partner i j := by
  unfold ogsGtpXactDeassociate at h
  simp only [Fallible.bind_eq_ok, GtpState.find_eq_ok, Fallible.assert_eq_ok,
    Fallible.pure_eq_ok, Except.ok.injEq] at h
  obtain ⟨x, hx, z, hz, -, -, -, -, z', hz', rfl⟩ := h
  rw [set_partner_update, set_partner_update]
  rfl

/-- Partners can be deassociated. -/
theorem deassociate_of_partner (hm : IsMatching s.partner) (hij : s.partner i = some j) :
    ∃ t, ogsGtpXactDeassociate s i j = .ok t := by
  obtain ⟨x, hx, hxj⟩ := partner_eq_some.mp hij
  obtain ⟨y, hy, hyi⟩ := partner_eq_some.mp (hm.symm hij)
  have hji : j ≠ i := by
    rintro rfl
    exact hm.irrefl j hij
  have hfind : (s.set i { x with assocXact := none }).find j = .ok y := by
    rw [GtpState.find_eq_ok, GtpState.set_pool, if_neg hji, hy]
  unfold ogsGtpXactDeassociate
  rw [GtpState.find_eq_ok.mpr hx, Fallible.ok_bind, GtpState.find_eq_ok.mpr hy,
    Fallible.ok_bind, Fallible.assert_of (by simp [hxj]), Fallible.ok_bind,
    Fallible.assert_of (by simp [hyi]), Fallible.ok_bind]
  simp only [hfind]
  exact ⟨_, rfl⟩

/-- Deleting a live transaction succeeds, frees its slot and keeps the matching. -/
theorem delete_of_matching (hm : IsMatching s.partner) (hx : s.pool i = some x) :
    ∃ t, ogsGtpXactDelete s i = .ok t ∧ IsMatching t.partner := by
  unfold ogsGtpXactDelete
  rw [GtpState.find_eq_ok.mpr hx, Fallible.ok_bind]
  cases ha : x.assocXact with
  | none =>
    have hnone : s.partner i = none := by rw [partner_of_pool hx, ha]
    exact ⟨s.remove i x, rfl, by rw [remove_partner hnone]; exact hm⟩
  | some j =>
    have hij : s.partner i = some j := by rw [partner_of_pool hx, ha]
    obtain ⟨u, hu⟩ := deassociate_of_partner hm hij
    have hup := deassociate_partner hu
    have hnone : u.partner i = none := by rw [hup, unlink_left]
    refine ⟨u.remove i x, ?_, ?_⟩
    · simp only [hu]
      rfl
    · rw [remove_partner hnone, hup]
      exact hm.unlink hij

theorem delete_matching (hm : IsMatching s.partner) (h : ogsGtpXactDelete s i = .ok t) :
    IsMatching t.partner := by
  have hlive : ∃ x, s.pool i = some x := by
    unfold ogsGtpXactDelete at h
    rw [Fallible.bind_eq_ok] at h
    obtain ⟨x, hx, -⟩ := h
    exact ⟨x, GtpState.find_eq_ok.mp hx⟩
  obtain ⟨x, hx⟩ := hlive
  obtain ⟨u, hu, hum⟩ := delete_of_matching hm hx
  obtain rfl : u = t := Except.ok.inj (hu.symm.trans h)
  exact hum

theorem foldlM_delete_matching {l : List XactIdx} (hm : IsMatching s.partner)
    (h : l.foldlM ogsGtpXactDelete s = .ok t) : IsMatching t.partner := by
  induction l generalizing s with
  | nil =>
    simp only [List.foldlM_nil, Fallible.pure_eq_ok, Except.ok.injEq] at h
    subst h
    exact hm
  | cons i l ih =>
    simp only [List.foldlM_cons, Fallible.bind_eq_ok] at h
    obtain ⟨u, hu, hut⟩ := h
    exact ih (delete_matching hm hu) hut

theorem receive_partner [Ogslib] {env : CreateEnv} {n : NodeId} {h : GtpHeader} {b : Bool}
    {rv : Rv} (hfree : ∀ i, env.slot = some i → s.pool i = none)
    (hr : ogsGtpXactReceive s env n h b = .ok (t, rv, i)) : t.partner = s.partner := by
  obtain ⟨org, y, pkbufs, -, hcase⟩ := receive_cases hr
  rcases hcase with ⟨x, -, hx, hrx, rfl⟩ | ⟨-, hslot, hrx, rfl⟩
  · rw [sendto_partner, set_partner hx hrx.assocXact]
  · rw [sendto_partner, set_partner (by simp) hrx.assocXact,
      insert_partner rfl (hfree i hslot) rfl]

theorem commit_matching {b : Bool} (hm : IsMatching s.partner)
    (h : ogsGtpXactCommit s i b = .ok t) : IsMatching t.partner := by
  unfold ogsGtpXactCommit at h
  simp only [Fallible.bind_eq_ok, GtpState.find_eq_ok] at h
  obtain ⟨x, hx, o, ho, h⟩ := h
  cases o with
  | none => exact delete_matching hm h
  | some y =>
    simp only [Fallible.bind_eq_ok, Fallible.pure_eq_ok, Except.ok.injEq] at h
    obtain ⟨e, -, p, -, -, -, rfl⟩ := h
    rw [sendto_partner]
    exact set_matching hm hx (commitStage_eq_some ho).assocXact

theorem responseTimeout_matching {b : Bool} (hm : IsMatching s.partner)
    (h : responseTimeout s i b = .ok t) : IsMatching t.partner := by
  unfold responseTimeout at h
  simp only [Fallible.bind_eq_ok, GtpState.find_eq_ok] at h
  obtain ⟨x, hx, e, -, h⟩ := h
  split at h
  case isTrue =>
    simp only [Fallible.bind_eq_ok] at h
    obtain ⟨p, -, h⟩ := h
    split at h
    case isTrue =>
      simp only [Fallible.pure_eq_ok, Except.ok.injEq] at h
      subst h
      rw [sendto_partner]
      exact set_matching hm hx rfl
    case isFalse =>
      refine delete_matching ?_ h
      exact set_matching hm hx rfl
  case isFalse =>
    refine delete_matching ?_ h
    exact set_matching hm hx rfl

theorem holdingTimeout_matching (hm : IsMatching s.partner)
    (h : holdingTimeout s i = .ok t) : IsMatching t.partner := by
  unfold holdingTimeout at h
  simp only [Fallible.bind_eq_ok, GtpState.find_eq_ok] at h
  obtain ⟨x, hx, e, -, h⟩ := h
  split at h
  case isTrue =>
    simp only [Fallible.pure_eq_ok, Except.ok.injEq] at h
    subst h
    exact set_matching hm hx rfl
  case isFalse =>
    refine delete_matching ?_ h
    exact set_matching hm hx rfl

/-- Every call keeps the matching. -/
theorem XactStep.matching [Ogslib] {label : XactOp × XactOut} (hm : IsMatching s.partner)
    (hok : AssocOk s label) (h : XactStep s label t) : IsMatching t.partner := by
  obtain ⟨op, out⟩ := label
  obtain ⟨hen, hex⟩ := h
  cases op with
  | localCreate env n hdesc pkbuf =>
    simp only [XactOp.exec, ogsGtpXactLocalCreate, Fallible.bind_eq_ok,
      Fallible.assertSome_eq_ok, Fallible.pure_eq_ok, Except.ok.injEq, Prod.mk.injEq] at hex
    obtain ⟨_, ⟨k, hk, -, -, -, -, x, hx, rfl⟩, rfl, -⟩ := hex
    have hx := (updateTx_eq_ok.mp hx).assocXact
    exact insert_matching hm rfl (hen k hk) hx
  | receive env n h b =>
    simp only [XactOp.exec, Fallible.bind_eq_ok, Fallible.pure_eq_ok, Except.ok.injEq,
      Prod.mk.injEq] at hex
    obtain ⟨⟨u, rv, i⟩, hu, rfl, -⟩ := hex
    rw [receive_partner hen hu]
    exact hm
  | updateTx i hdesc pkbuf =>
    simp only [XactOp.exec, Fallible.bind_eq_ok, GtpState.find_eq_ok, Fallible.pure_eq_ok,
      Except.ok.injEq, Prod.mk.injEq] at hex
    obtain ⟨x, hx, y, hy, rfl, -⟩ := hex
    exact set_matching hm hx (updateTx_eq_ok.mp hy).assocXact
  | commit i b =>
    simp only [XactOp.exec, Fallible.bind_eq_ok, Fallible.pure_eq_ok, Except.ok.injEq,
      Prod.mk.injEq] at hex
    obtain ⟨u, hu, rfl, -⟩ := hex
    exact commit_matching hm hu
  | responseTimeout i b =>
    simp only [XactOp.exec, Fallible.bind_eq_ok, Fallible.pure_eq_ok, Except.ok.injEq,
      Prod.mk.injEq] at hex
    obtain ⟨u, hu, rfl, -⟩ := hex
    exact responseTimeout_matching hm hu
  | holdingTimeout i =>
    simp only [XactOp.exec, Fallible.bind_eq_ok, Fallible.pure_eq_ok, Except.ok.injEq,
      Prod.mk.injEq] at hex
    obtain ⟨u, hu, rfl, -⟩ := hex
    exact holdingTimeout_matching hm hu
  | associate i j =>
    simp only [XactOp.exec, Fallible.bind_eq_ok, Fallible.pure_eq_ok, Except.ok.injEq,
      Prod.mk.injEq] at hex
    obtain ⟨u, hu, rfl, -⟩ := hex
    obtain ⟨hi, hj, hp⟩ := associate_partner hu
    rw [hp]
    exact hm.link hi hj hok
  | deassociate i j =>
    simp only [XactOp.exec, Fallible.bind_eq_ok, Fallible.pure_eq_ok, Except.ok.injEq,
      Prod.mk.injEq] at hex
    obtain ⟨u, hu, rfl, -⟩ := hex
    rw [deassociate_partner hu]
    exact hm.unlink hok
  | deleteAll n =>
    simp only [XactOp.exec, ogsGtpXactDeleteAll, Fallible.bind_eq_ok, Fallible.pure_eq_ok,
      Except.ok.injEq, Prod.mk.injEq] at hex
    obtain ⟨u, ⟨v, hv, hvu⟩, rfl, -⟩ := hex
    exact foldlM_delete_matching (foldlM_delete_matching hm hv) hvu

theorem AssocReachable.matching [Ogslib] (h : AssocReachable s) : IsMatching s.partner := by
  refine Lts.Reaches.invariant (I := fun s => IsMatching s.partner) ?_ h isMatching_empty
  intro u label v hm hstep
  exact hstep.2.matching hm hstep.1

/-! ## The asserts of `ogs_gtp_xact_deassociate` -/

theorem delete_safe (hm : IsMatching s.partner) :
    (ogsGtpXactDelete s i).Avoids (.assert .deassociate) := by
  cases hx : s.pool i with
  | none => simp [Fallible.Avoids, ogsGtpXactDelete, GtpState.find, hx]
  | some x =>
    obtain ⟨t, ht, -⟩ := delete_of_matching hm hx
    rw [ht]
    exact Fallible.avoids_ok _ _

theorem foldlM_delete_safe {l : List XactIdx} (hm : IsMatching s.partner) :
    (l.foldlM ogsGtpXactDelete s).Avoids (.assert .deassociate) := by
  induction l generalizing s with
  | nil => simp
  | cons i l ih =>
    rw [List.foldlM_cons, Fallible.avoids_bind]
    exact ⟨delete_safe hm, fun t ht => ih (delete_matching hm ht)⟩

theorem deleteAll_safe (hm : IsMatching s.partner) (n : NodeId) :
    (ogsGtpXactDeleteAll s n).Avoids (.assert .deassociate) := by
  unfold ogsGtpXactDeleteAll
  rw [Fallible.avoids_bind]
  exact ⟨foldlM_delete_safe hm, fun t ht => foldlM_delete_safe (foldlM_delete_matching hm ht)⟩

theorem find_safe : (s.find i).Avoids (.assert .deassociate) := by
  unfold GtpState.find
  split <;> simp [Fallible.Avoids]

theorem last_safe : x.last.Avoids (.assert .deassociate) := by
  unfold GtpXact.last
  split
  case h_1 => simp [Fallible.Avoids]
  case h_2 => split <;> simp [Fallible.Avoids]

theorem commit_safe (hm : IsMatching s.partner) (b : Bool) :
    (ogsGtpXactCommit s i b).Avoids (.assert .deassociate) := by
  unfold ogsGtpXactCommit
  rw [Fallible.avoids_bind]
  refine ⟨find_safe, fun x hx => ?_⟩
  rw [Fallible.avoids_bind]
  refine ⟨?_, fun o ho => ?_⟩
  · unfold commitStage
    rw [Fallible.avoids_bind]
    refine ⟨last_safe, fun e _ => ?_⟩
    split <;> simp [Fallible.avoids_bind]
  · cases o with
    | none => exact delete_safe hm
    | some y => simp [Fallible.avoids_bind, last_safe]

theorem responseTimeout_safe (hm : IsMatching s.partner) (b : Bool) :
    (responseTimeout s i b).Avoids (.assert .deassociate) := by
  unfold responseTimeout
  rw [Fallible.avoids_bind]
  refine ⟨find_safe, fun x hx => ?_⟩
  rw [Fallible.avoids_bind]
  refine ⟨last_safe, fun e _ => ?_⟩
  have hx := GtpState.find_eq_ok.mp hx
  by_cases hcount : x.responseRcount - 1 > 0
  · simp only [if_pos hcount]
    rw [Fallible.avoids_bind]
    refine ⟨by simp, fun p _ => ?_⟩
    cases b with
    | true => exact Fallible.avoids_ok _ _
    | false => exact delete_safe (set_matching hm hx rfl)
  · simp only [if_neg hcount]
    exact delete_safe (set_matching hm hx rfl)

theorem holdingTimeout_safe (hm : IsMatching s.partner) :
    (holdingTimeout s i).Avoids (.assert .deassociate) := by
  unfold holdingTimeout
  rw [Fallible.avoids_bind]
  refine ⟨find_safe, fun x hx => ?_⟩
  rw [Fallible.avoids_bind]
  refine ⟨last_safe, fun e _ => ?_⟩
  have hx := GtpState.find_eq_ok.mp hx
  by_cases hcount : x.holdingRcount - 1 > 0
  · simp [hcount]
  · simp only [if_neg hcount]
    exact delete_safe (set_matching hm hx rfl)

/-- The partners of live transactions are live, distinct and partners of each other; every
live transaction can be deleted, and no call that deletes reaches an assert of
`ogs_gtp_xact_deassociate`. -/
theorem assocReachable_partners [Ogslib] (h : AssocReachable s) :
    (∀ i j, s.partner i = some j ↔ s.partner j = some i) ∧
    (∀ i j, s.partner i = some j → i ≠ j ∧ (s.pool j).isSome = true) ∧
    (∀ i x, s.pool i = some x → ∃ t, ogsGtpXactDelete s i = .ok t) ∧
    (∀ i b, (ogsGtpXactCommit s i b).Avoids (.assert .deassociate)) ∧
    (∀ i b, (responseTimeout s i b).Avoids (.assert .deassociate)) ∧
    (∀ i, (holdingTimeout s i).Avoids (.assert .deassociate)) ∧
    (∀ n, (ogsGtpXactDeleteAll s n).Avoids (.assert .deassociate)) := by
  have hm := h.matching
  refine ⟨fun i j => hm.comm, ?_, ?_, fun _ b => commit_safe hm b,
    fun _ b => responseTimeout_safe hm b, fun _ => holdingTimeout_safe hm,
    fun n => deleteAll_safe hm n⟩
  · intro i j hij
    constructor
    · rintro rfl
      exact hm.irrefl i hij
    · obtain ⟨y, hy, -⟩ := partner_eq_some.mp (hm.symm hij)
      rw [hy]
      rfl
  · intro i x hx
    obtain ⟨t, ht, -⟩ := delete_of_matching hm hx
    exact ⟨t, ht⟩

end

section
attribute [local instance] Ogslib.reference

/-- A Create Session Request to the given peer, in the given slot. -/
def createSession (i : XactIdx) (gnode : NodeId) : XactOp :=
  .localCreate ⟨some i, true, true⟩ gnode ⟨GtpType.createSessionRequest, 0, #v[0, 0, 0, 0]⟩ []

/-- Two requests to different peers, associated with each other. -/
theorem assocReachable_partners_two : ∃ s, AssocReachable s ∧ s.partner 0 = some 1 ∧
    s.partner 1 = some 0 ∧ ∃ t, ogsGtpXactDelete s 0 = .ok t := by
  have h0 := AssocReachable.init.next (show (createSession 0 1).Enabled _ from fun _ _ => by
    rfl) trivial rfl
  have h1 := h0.next (show (createSession 1 2).Enabled _ from fun i hi => by
    cases hi
    rfl) trivial rfl
  have h2 := h1.next (show (XactOp.associate 0 1).Enabled _ from trivial)
    Nat.zero_ne_one rfl
  have hsound := assocReachable_partners h2
  exact ⟨_, h2, rfl, (hsound.1 0 1).mp rfl, hsound.2.2.1 0 _ rfl⟩

/-- Without the two conditions the matching is lost: a transaction may be associated with
itself, and deassociating transactions that are not partners leaves their partners with
pointers on which `ogs_gtp_xact_delete` fails. -/
theorem xactReachable_not_matching :
    (∃ s, XactReachable s ∧ s.partner 0 = some 0) ∧
    (∃ s, XactReachable s ∧ s.partner 1 = some 0 ∧ s.partner 0 = none ∧
      ogsGtpXactDelete s 1 = .error (.assert .deassociate)) := by
  have h0 := XactReachable.init.next (show (createSession 0 1).Enabled _ from fun _ _ => by
    rfl) rfl
  constructor
  · have hself := h0.next (show (XactOp.associate 0 0).Enabled _ from trivial) rfl
    exact ⟨_, hself, rfl⟩
  · have h1 := h0.next (show (createSession 1 1).Enabled _ from fun i hi => by
      cases hi
      rfl) rfl
    have h2 := h1.next (show (createSession 2 1).Enabled _ from fun i hi => by
      cases hi
      rfl) rfl
    have h3 := h2.next (show (createSession 3 1).Enabled _ from fun i hi => by
      cases hi
      rfl) rfl
    have h01 := h3.next (show (XactOp.associate 0 1).Enabled _ from trivial) rfl
    have h23 := h01.next (show (XactOp.associate 2 3).Enabled _ from trivial) rfl
    have hcross := h23.next (show (XactOp.deassociate 0 2).Enabled _ from trivial) rfl
    exact ⟨_, hcross, rfl, rfl, rfl⟩

end

end NextEpc

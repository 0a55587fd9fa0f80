import NextEpc.Gtp.XactSystem

/-!
# The step counter and its records

A live transaction has recorded a message type for exactly the steps it has taken, and a
packet for exactly the steps this node has sent; the response timer runs only while the
last step is one of these.
-/

namespace NextEpc

/-- Whether the node itself sends the message of step `k`. -/
def Originator.sends : Originator → Nat → Bool
  | localOriginator, k => k % 2 = 0
  | remoteOriginator, k => k % 2 = 1

/-- The first `step` entries hold a type, and those of the node's own steps a packet. -/
def Recorded (org : Originator) (seq : Fin 3 → SeqEntry) (step : Nat) : Prop :=
  ∀ k : Fin 3, ((seq k).type ≠ 0 ↔ k < step) ∧
    ((seq k).pkbuf.isSome = true ↔ k < step ∧ org.sends k = true)

/-- The invariant of a live transaction between two calls. -/
structure XactWf (x : GtpXact) : Prop where
  step_pos : 1 ≤ x.step
  step_le : x.step ≤ 3
  recorded : Recorded x.org x.seq x.step
  armed : x.tmResponse = true → x.org.sends (x.step - 1) = true

theorem Recorded.set {org : Originator} {seq : Fin 3 → SeqEntry} {j : Fin 3} {e : SeqEntry}
    (h : Recorded org seq j) (htype : e.type ≠ 0)
    (hpkbuf : e.pkbuf.isSome = true ↔ org.sends j = true) :
    Recorded org (Function.update seq j e) (j + 1) := by
  intro k
  by_cases hk : k = j
  · subst hk
    simp only [Function.update_self, Nat.lt_succ_self, true_and]
    exact ⟨iff_of_true htype trivial, hpkbuf⟩
  · have hkj : (k : Nat) ≠ j := fun h => hk (Fin.ext h)
    have hlt : (k : Nat) < j + 1 ↔ (k : Nat) < j := by omega
    simp only [Function.update_of_ne hk, hlt]
    exact h k

/-- The entry that is about to be written holds nothing. -/
theorem Recorded.pkbuf_eq_none {org : Originator} {seq : Fin 3 → SeqEntry} {k : Fin 3}
    (h : Recorded org seq k) : (seq k).pkbuf = none := by
  have hk := (h k).2
  rw [← Option.not_isSome_iff_eq_none, hk]
  simp

theorem recorded_zero (org : Originator) : Recorded org (fun _ => {}) 0 := by
  intro k
  simp

theorem type_ne_zero {type : UInt8} {xid : UInt32}
    (h : ogsGtpXactGetStage type xid ≠ .unknown) : type ≠ 0 := by
  rintro rfl
  exact h rfl

section
variable {x y : GtpXact} {hdesc : GtpHeader} {pkbuf : Bytes} {type : UInt8} {sendto : Bool}
  {rv : Rv} {pkbufs : List Bytes}

/-- A step that the node sends itself. -/
theorem GtpXact.sent_wf {j : Fin 3} (hrec : Recorded x.org x.seq j) (htype : type ≠ 0)
    (hsends : x.org.sends j = true) (p : Bytes) :
    XactWf { x with seq := Function.update x.seq j ⟨type, some p⟩, step := j + 1 } := by
  have hset := Recorded.set (e := ⟨type, some p⟩) hrec htype (iff_of_true rfl hsends)
  exact ⟨Nat.le_add_left 1 j, j.isLt, hset, fun _ => hsends⟩

theorem TxCase.sends (h : TxCase x hdesc pkbuf y) :
    x.step ≤ 2 ∧ x.org.sends x.step = true := by
  cases h with
  | initial horg _ hstep =>
    rw [horg, hstep]
    decide
  | reply horg _ hstep =>
    rw [horg, hstep]
    decide
  | final horg _ hstep =>
    rw [horg, hstep]
    decide

theorem TxCase.wf (hrec : Recorded x.org x.seq x.step) (h : TxCase x hdesc pkbuf y) :
    XactWf y := by
  have hsends := h.sends.2
  cases h with
  | initial horg hst hstep =>
    have htype : hdesc.type ≠ 0 := type_ne_zero (by rw [hst]; decide)
    rw [hstep] at hrec hsends
    exact GtpXact.sent_wf (j := 0) hrec htype hsends _
  | reply horg hst hstep =>
    have htype : hdesc.type ≠ 0 := by
      rcases hst with hst | hst <;> exact type_ne_zero (by rw [hst]; decide)
    rw [hstep] at hrec hsends
    exact GtpXact.sent_wf (j := 1) hrec htype hsends _
  | final horg hst hstep =>
    have htype : hdesc.type ≠ 0 := type_ne_zero (by rw [hst]; decide)
    rw [hstep] at hrec hsends
    exact GtpXact.sent_wf (j := 2) hrec htype hsends _

/-- A step that the peer sends. -/
theorem GtpXact.accepted_wf {k : Fin 3} (hrec : Recorded x.org x.seq k) (htype : type ≠ 0)
    (hsends : x.org.sends k = false) : XactWf (x.accepted type k) := by
  have hset := Recorded.set (e := { x.seq k with type := type }) hrec htype
    (by rw [hrec.pkbuf_eq_none, hsends]; decide)
  refine ⟨Nat.le_add_left 1 k, k.isLt, hset, ?_⟩
  intro harmed
  cases harmed

theorem RxCase.not_sends (h : RxCase x type sendto rv y pkbufs) (hrv : rv = .ok) :
    x.step ≤ 2 ∧ x.org.sends x.step = false := by
  cases h with
  | request horg _ _ hstep =>
    rw [horg, hstep]
    decide
  | triggered horg _ _ hstep =>
    rw [horg, hstep]
    decide
  | response horg _ hstep =>
    rw [horg, hstep]
    decide
  | triggeredReply horg _ hstep =>
    rw [horg, hstep]
    decide
  | discard => cases hrv
  | retransmit => cases hrv

theorem RxCase.wf (hrec : Recorded x.org x.seq x.step)
    (harmed : x.tmResponse = true → x.org.sends (x.step - 1) = true)
    (h : RxCase x type sendto rv y pkbufs) : XactWf y := by
  have hsends := h.not_sends
  cases h with
  | request horg hst _ hstep =>
    have htype : type ≠ 0 := type_ne_zero (by rw [hst]; decide)
    rw [hstep] at hrec hsends
    exact GtpXact.accepted_wf (x := { x with tmHolding := true }) (k := 0) hrec htype
      (hsends rfl).2
  | triggered horg hst _ hstep =>
    have htype : type ≠ 0 := type_ne_zero (by rw [hst]; decide)
    rw [hstep] at hrec hsends
    exact GtpXact.accepted_wf (x := { x with tmHolding := true }) (k := 1) hrec htype
      (hsends rfl).2
  | response horg hst hstep =>
    have htype : type ≠ 0 := type_ne_zero (by rw [hst]; decide)
    rw [hstep] at hrec hsends
    exact GtpXact.accepted_wf (k := 1) hrec htype (hsends rfl).2
  | triggeredReply horg hst hstep =>
    have htype : type ≠ 0 := type_ne_zero (by rw [hst]; decide)
    rw [hstep] at hrec hsends
    exact GtpXact.accepted_wf (k := 2) hrec htype (hsends rfl).2
  | discard hc =>
    have hstep : 1 ≤ x.step ∧ x.step ≤ 3 := by omega
    exact ⟨hstep.1, hstep.2, hrec, harmed⟩
  | retransmit _ hc =>
    have hstep : 1 ≤ x.step ∧ x.step ≤ 3 := by omega
    exact ⟨hstep.1, hstep.2, hrec, harmed⟩

theorem CommitCase.wf (hx : XactWf x) (h : CommitCase x y) : XactWf y := by
  cases h with
  | request horg hstep _ =>
    refine ⟨hx.step_pos, hx.step_le, hx.recorded, fun _ => ?_⟩
    simp only [horg, hstep]
    rfl
  | triggered horg hstep _ =>
    refine ⟨hx.step_pos, hx.step_le, hx.recorded, fun _ => ?_⟩
    simp only [horg, hstep]
    rfl
  | reply => exact hx
  | triggeredReply => exact hx

/-- Every call keeps the invariant of the transactions that stay alive. -/
theorem XactChange.wf {s : GtpState} {op : XactOp} {k : XactIdx} (hx : XactWf x)
    (h : XactChange s op k x y) : XactWf y := by
  cases h with
  | same => exact hx
  | tx _ htx => exact (updateTx_eq_ok.mp htx).wf hx.recorded
  | rx _ _ _ hrx => exact (updateRx_eq_ok.mp hrx).wf hx.recorded hx.armed
  | commit _ hc => exact (commitStage_eq_some hc).wf hx
  | response => exact ⟨hx.step_pos, hx.step_le, hx.recorded, hx.armed⟩
  | holding => exact ⟨hx.step_pos, hx.step_le, hx.recorded, hx.armed⟩
  | assoc _ => exact ⟨hx.step_pos, hx.step_le, hx.recorded, hx.armed⟩

theorem XactBorn.wf [Ogslib] {s : GtpState} {op : XactOp} (h : XactBorn s op x) :
    XactWf x := by
  cases h with
  | localCreate _ htx => exact (updateTx_eq_ok.mp htx).wf (recorded_zero _)
  | remoteCreate _ _ _ hrx =>
    refine (updateRx_eq_ok.mp hrx).wf (recorded_zero _) ?_
    intro harmed
    cases harmed

end

theorem XactReachable.wf [Ogslib] {s : GtpState} (h : XactReachable s) {i : XactIdx}
    {x : GtpXact} (hx : s.pool i = some x) : XactWf x :=
  h.live_invariant (fun _ _ _ hb => hb.wf) (fun _ _ _ _ _ hc hx => hc.wf hx) i x hx

section
variable {s : GtpState} {i j : XactIdx} {x : GtpXact} {e : Fault XactSite}

theorem find_avoids (he : e ≠ .dangling) : (s.find i).Avoids e := by
  unfold GtpState.find
  split <;> simp [Fallible.Avoids, he.symm]

theorem record_inBounds {w : SeqEntry → SeqEntry} (h : x.step < 3) :
    (x.record w).Avoids .outOfBounds := by
  simp [GtpXact.record, h]

theorem XactWf.exists_last (h : XactWf x) : ∃ k : Fin 3, x.step = k + 1 := by
  have hpos := h.step_pos
  have hle := h.step_le
  exact ⟨⟨x.step - 1, by omega⟩, by simp only; omega⟩

theorem last_avoids (h : XactWf x) : x.last.Avoids e := by
  obtain ⟨k, hk⟩ := h.exists_last
  rw [last_eq x k hk]
  exact Fallible.avoids_ok _ _

theorem updateTx_inBounds (x : GtpXact) (hdesc : GtpHeader) (pkbuf : Bytes) :
    (ogsGtpXactUpdateTx x hdesc pkbuf).Avoids .outOfBounds := by
  unfold ogsGtpXactUpdateTx
  split
  case h_5 => simp [Fallible.avoids_bind]
  all_goals
    rw [Fallible.avoids_bind]
    refine ⟨by simp, fun _ hstep => record_inBounds ?_⟩
    rw [Fallible.assert_eq_ok] at hstep
    omega

theorem accept_inBounds {type : UInt8} (h : x.step < 3) :
    (x.accept type).Avoids .outOfBounds := by
  unfold GtpXact.accept
  rw [Fallible.avoids_bind]
  exact ⟨record_inBounds h, by simp⟩

theorem duplicated_inBounds {p : Option Bytes} {b : Bool} :
    (x.duplicated p b).Avoids .outOfBounds := by
  unfold GtpXact.duplicated
  cases p with
  | none => simp
  | some p => simp [Fallible.avoids_bind]

theorem updateRx_inBounds (x : GtpXact) (type : UInt8) (b : Bool) :
    (ogsGtpXactUpdateRx x type b).Avoids .outOfBounds := by
  unfold ogsGtpXactUpdateRx
  split
  case h_5 => simp
  case h_1 | h_3 =>
    split
    case isTrue => simp [Fallible.avoids_bind, duplicated_inBounds]
    case isFalse =>
      rw [Fallible.avoids_bind]
      refine ⟨by simp, fun _ hstep => accept_inBounds ?_⟩
      rw [Fallible.assert_eq_ok] at hstep
      simp only [hstep]
      decide
  all_goals
    rw [Fallible.avoids_bind]
    refine ⟨by simp, fun _ hstep => accept_inBounds ?_⟩
    rw [Fallible.assert_eq_ok] at hstep
    omega

theorem commitStage_inBounds (h : XactWf x) : (commitStage x).Avoids .outOfBounds := by
  unfold commitStage
  rw [Fallible.avoids_bind]
  refine ⟨last_avoids h, fun e _ => ?_⟩
  split <;> simp [Fallible.avoids_bind]

theorem deassociate_avoids (he : e ≠ .dangling) (ha : e ≠ .assert .deassociate) :
    (ogsGtpXactDeassociate s i j).Avoids e := by
  simp [ogsGtpXactDeassociate, Fallible.avoids_bind, find_avoids he, ha]

theorem delete_avoids (he : e ≠ .dangling) (ha : e ≠ .assert .deassociate) :
    (ogsGtpXactDelete s i).Avoids e := by
  unfold ogsGtpXactDelete
  rw [Fallible.avoids_bind]
  refine ⟨find_avoids he, fun x _ => ?_⟩
  split
  case h_1 => simp [Fallible.avoids_bind, deassociate_avoids he ha]
  case h_2 => simp

theorem foldlM_delete_inBounds (l : List XactIdx) :
    (l.foldlM ogsGtpXactDelete s).Avoids .outOfBounds := by
  induction l generalizing s with
  | nil => simp
  | cons i l ih =>
    rw [List.foldlM_cons, Fallible.avoids_bind]
    exact ⟨delete_avoids nofun nofun, fun _ _ => ih⟩

theorem receive_inBounds [Ogslib] {env : CreateEnv} {n : NodeId} {h : GtpHeader} {b : Bool} :
    (ogsGtpXactReceive s env n h b).Avoids .outOfBounds := by
  have hfind : ∀ (u : GtpState) k, (u.find k).Avoids .outOfBounds :=
    fun _ _ => find_avoids nofun
  unfold ogsGtpXactReceive ogsGtpXactFindByXid
  rw [Fallible.avoids_bind]
  refine ⟨by simp [Fallible.avoids_bind], fun o _ => ?_⟩
  split
  case h_1 => simp [Fallible.avoids_bind, hfind, updateRx_inBounds]
  case h_2 => simp [ogsGtpXactRemoteCreate, Fallible.avoids_bind, hfind, updateRx_inBounds]

theorem commit_inBounds (hwf : ∀ x, s.pool i = some x → XactWf x) (b : Bool) :
    (ogsGtpXactCommit s i b).Avoids .outOfBounds := by
  unfold ogsGtpXactCommit
  rw [Fallible.avoids_bind]
  refine ⟨find_avoids nofun, fun x hx => ?_⟩
  have hx := hwf x (GtpState.find_eq_ok.mp hx)
  rw [Fallible.avoids_bind]
  refine ⟨commitStage_inBounds hx, fun o ho => ?_⟩
  cases o with
  | none => exact delete_avoids nofun nofun
  | some y =>
    have hy := (commitStage_eq_some ho).wf hx
    simp [Fallible.avoids_bind, last_avoids hy]

/-- An armed transaction has a packet to send again. -/
theorem XactWf.armed_pkbuf (h : XactWf x) (harmed : x.tmResponse = true) :
    ∃ k : Fin 3, x.step = k + 1 ∧ (x.seq k).pkbuf.isSome = true := by
  obtain ⟨k, hk⟩ := h.exists_last
  have hsends := h.armed harmed
  rw [hk, Nat.add_sub_cancel] at hsends
  exact ⟨k, hk, (h.recorded k).2.mpr ⟨by omega, hsends⟩⟩

/-- When the response timer fires there is a packet to send again. -/
theorem responseTimeout_avoids (he : e ≠ .dangling) (ha : e ≠ .assert .deassociate)
    (hx : s.pool i = some x) (hwf : XactWf x) (harmed : x.tmResponse = true) (b : Bool) :
    (responseTimeout s i b).Avoids e := by
  obtain ⟨k, hk, hpkbuf⟩ := hwf.armed_pkbuf harmed
  unfold responseTimeout
  rw [GtpState.find_eq_ok.mpr hx, Fallible.ok_bind, last_eq x k hk, Fallible.ok_bind]
  by_cases hcount : x.responseRcount - 1 > 0
  · simp only [if_pos hcount]
    rw [Fallible.avoids_bind]
    refine ⟨Fallible.avoids_assertSome.mpr fun _ => hpkbuf, fun q _ => ?_⟩
    cases b
    · exact delete_avoids he ha
    · exact Fallible.avoids_ok _ _
  · simp only [if_neg hcount]
    exact delete_avoids he ha

theorem holdingTimeout_inBounds (hwf : ∀ x, s.pool i = some x → XactWf x) :
    (holdingTimeout s i).Avoids .outOfBounds := by
  unfold holdingTimeout
  rw [Fallible.avoids_bind]
  refine ⟨find_avoids nofun, fun x hx => ?_⟩
  rw [Fallible.avoids_bind]
  refine ⟨last_avoids (hwf x (GtpState.find_eq_ok.mp hx)), fun e _ => ?_⟩
  by_cases hcount : x.holdingRcount - 1 > 0
  · simp [hcount]
  · simp only [if_neg hcount]
    exact delete_avoids nofun nofun

/-- No call reads or writes the entries outside the array. -/
theorem XactOp.exec_inBounds [Ogslib] (hwf : ∀ i x, s.pool i = some x → XactWf x)
    {op : XactOp} (hen : op.Enabled s) : (op.exec s).Avoids .outOfBounds := by
  have hfind : ∀ (u : GtpState) k, (u.find k).Avoids .outOfBounds :=
    fun _ _ => find_avoids nofun
  have hdeassoc : ∀ k l, (ogsGtpXactDeassociate s k l).Avoids .outOfBounds :=
    fun _ _ => deassociate_avoids nofun nofun
  cases op with
  | localCreate =>
    simp [XactOp.exec, ogsGtpXactLocalCreate, Fallible.avoids_bind, updateTx_inBounds]
  | receive => simp [XactOp.exec, Fallible.avoids_bind, receive_inBounds]
  | updateTx => simp [XactOp.exec, Fallible.avoids_bind, hfind, updateTx_inBounds]
  | commit i b => simp [XactOp.exec, Fallible.avoids_bind, commit_inBounds (hwf i) b]
  | responseTimeout i b =>
    obtain ⟨x, hx, harmed⟩ := hen
    have h : (NextEpc.responseTimeout s i b).Avoids .outOfBounds :=
      responseTimeout_avoids (by simp) (by simp) hx (hwf i x hx) harmed b
    simp [XactOp.exec, Fallible.avoids_bind, h]
  | holdingTimeout i => simp [XactOp.exec, Fallible.avoids_bind, holdingTimeout_inBounds (hwf i)]
  | associate => simp [XactOp.exec, ogsGtpXactAssociate, Fallible.avoids_bind, hfind]
  | deassociate => simp [XactOp.exec, Fallible.avoids_bind, hdeassoc]
  | deleteAll =>
    simp [XactOp.exec, ogsGtpXactDeleteAll, Fallible.avoids_bind, foldlM_delete_inBounds]

end

/-- In every reachable state a live transaction has recorded exactly the steps it has
taken, the next step of its sender is all that a call can record, and neither the array
bounds nor the packet of a retransmission can fail. -/
theorem xactReachable_recorded [Ogslib] {s : GtpState} (h : XactReachable s) :
    (∀ i x, s.pool i = some x → x.step ≤ 3 ∧
      (∀ k : Fin 3, ((x.seq k).type ≠ 0 ↔ k < x.step) ∧
        ((x.seq k).pkbuf.isSome = true ↔ k < x.step ∧ x.org.sends k = true)) ∧
      (∀ hdesc pkbuf y, ogsGtpXactUpdateTx x hdesc pkbuf = .ok y →
        x.step ≤ 2 ∧ x.org.sends x.step = true) ∧
      (∀ type sendto y pkbufs, ogsGtpXactUpdateRx x type sendto = .ok (.ok, y, pkbufs) →
        x.step ≤ 2 ∧ x.org.sends x.step = false) ∧
      (x.tmResponse = true → ∃ k : Fin 3, x.step = k + 1 ∧ (x.seq k).pkbuf.isSome = true)) ∧
    (∀ op : XactOp, op.Enabled s → (op.exec s).Avoids .outOfBounds) ∧
    (∀ i sendto, (XactOp.responseTimeout i sendto).Enabled s →
      (responseTimeout s i sendto).Avoids (.assert .retransmit)) := by
  refine ⟨?_, ?_, ?_⟩
  · intro i x hx
    have hwf := h.wf hx
    refine ⟨hwf.step_le, hwf.recorded, ?_, ?_, hwf.armed_pkbuf⟩
    · intro hdesc pkbuf y hy
      exact (updateTx_eq_ok.mp hy).sends
    · intro type sendto y pkbufs hy
      exact (updateRx_eq_ok.mp hy).not_sends rfl
  · intro op hen
    exact XactOp.exec_inBounds (fun i x hx => h.wf hx) hen
  · rintro i sendto ⟨x, hx, harmed⟩
    exact responseTimeout_avoids (by simp) (by simp) hx (h.wf hx) harmed sendto

section
attribute [local instance] Ogslib.reference

/-- After a Create Session Request was sent, its retransmission cannot fail. -/
theorem xactReachable_recorded_request : ∃ s, XactReachable s ∧
    (∃ x, s.pool 7 = some x ∧ x.tmResponse = true) ∧
    (responseTimeout s 7 true).Avoids (.assert .retransmit) := by
  have hcreate := XactReachable.init.next
    (show (XactOp.localCreate ⟨some 7, true, true⟩ 1 ⟨32, 5, #v[0, 0, 0, 0]⟩ []).Enabled _
      from fun _ _ => rfl) rfl
  have hcommit := hcreate.next (show (XactOp.commit 7 true).Enabled _ from trivial) rfl
  have hsound := xactReachable_recorded hcommit
  exact ⟨_, hcommit, ⟨_, rfl, rfl⟩, hsound.2.2 7 true ⟨_, rfl, rfl⟩⟩

end

end NextEpc

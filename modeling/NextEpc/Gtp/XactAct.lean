import NextEpc.Gtp.XactSystem

/-!
# What a call does to one transaction

A call may be about a transaction or about others. What it can make of the transaction and the
packets that it sends for it are said once, by `XactAct`.
-/

namespace NextEpc

/-- The transaction whose packets a call may send -/
def xactSender : XactOp × XactOut → Option XactIdx
  | (.commit i _, _) => some i
  | (.responseTimeout i _, _) => some i
  | (.receive _ _ _ _, .received _ i) => some i
  | _ => none

/-- The packets that a call has sent for the transaction in a slot -/
def packetsFor (i : XactIdx) (s : GtpState) (label : XactOp × XactOut) (t : GtpState) :
    List Bytes :=
  if xactSender label = some i then (t.sent.drop s.sent.length).map Prod.snd else []

/-- What a call makes of the transaction in slot `i`, and the packets that it sends for it. -/
inductive XactAct (i : XactIdx) (op : XactOp) (x : GtpXact) : Option GtpXact → List Bytes → Prop
  | deleted : XactAct i op x none []
  | idle (a : Option XactIdx) : XactAct i op x (some { x with assocXact := a }) []
  | tx {hdesc : GtpHeader} {pkbuf : Bytes} {y : GtpXact} : op = .updateTx i hdesc pkbuf →
      TxCase x hdesc pkbuf y → XactAct i op x (some y) []
  | rx {type : UInt8} {sendto : Bool} {rv : Rv} {y : GtpXact} {pkbufs : List Bytes} :
      RxCase x type sendto rv y pkbufs → XactAct i op x (some y) pkbufs
  | commit {sendto : Bool} {y : GtpXact} {entry : SeqEntry} {pkbuf : Bytes} :
      op = .commit i sendto → CommitCase x y → y.last = .ok entry → entry.pkbuf = some pkbuf →
      XactAct i op x (some y) [pkbuf]
  | response {entry : SeqEntry} {pkbuf : Bytes} : x.tmResponse = true →
      x.responseRcount - 1 > 0 → x.last = .ok entry → entry.pkbuf = some pkbuf →
      XactAct i op x (some { x with responseRcount := x.responseRcount - 1 }) [pkbuf]
  | holding : x.tmHolding = true → x.holdingRcount - 1 > 0 →
      XactAct i op x (some { x with holdingRcount := x.holdingRcount - 1 }) []

section
variable {s t : GtpState} {i j k : XactIdx} {x y : GtpXact} {op : XactOp} {out : XactOut}
  {label : XactOp × XactOut} {n : NodeId} {b : Bool}

theorem packetsFor_self (h : xactSender label = some i) :
    packetsFor i s label t = (t.sent.drop s.sent.length).map Prod.snd := if_pos h

theorem packetsFor_other (h : xactSender label ≠ some i) : packetsFor i s label t = [] := if_neg h

theorem deassociate_sent (h : ogsGtpXactDeassociate s i j = .ok t) : t.sent = s.sent := by
  unfold ogsGtpXactDeassociate at h
  simp only [Fallible.bind_eq_ok, GtpState.find_eq_ok, Fallible.assert_eq_ok,
    Fallible.pure_eq_ok, Except.ok.injEq] at h
  obtain ⟨x, -, y, -, -, -, -, -, z, -, rfl⟩ := h
  rfl

theorem delete_sent (h : ogsGtpXactDelete s i = .ok t) : t.sent = s.sent := by
  unfold ogsGtpXactDelete at h
  simp only [Fallible.bind_eq_ok, GtpState.find_eq_ok] at h
  obtain ⟨x, -, h⟩ := h
  split at h
  case h_1 j hp =>
    simp only [Fallible.bind_eq_ok, Fallible.pure_eq_ok, Except.ok.injEq] at h
    obtain ⟨u, hu, rfl⟩ := h
    exact deassociate_sent (t := u) hu
  case h_2 hp =>
    simp only [Fallible.pure_eq_ok, Fallible.ok_bind, Except.ok.injEq] at h
    rw [← h]
    rfl

theorem drop_sent (s : GtpState) (n : NodeId) (pkbufs : List Bytes) :
    (((s.set i x).sendto n pkbufs).sent.drop s.sent.length).map Prod.snd = pkbufs := by
  simp [GtpState.sendto, GtpState.set, Function.comp_def]

/-- A call that is about other transactions at most ends the association of this one. -/
theorem Detached.act (h : Detached s t) (hx : s.pool i = some x) :
    XactAct i op x (t.pool i) [] := by
  cases hi : t.pool i with
  | none => exact .deleted
  | some y =>
    obtain ⟨z, hz, hy⟩ := h i y hi
    obtain rfl : x = z := Option.some.inj (hx.symm.trans hz)
    rcases hy with rfl | rfl
    · exact .idle y.assocXact
    · exact .idle none

/-- A transaction that nothing has been done to -/
theorem act_same (ht : t.pool i = s.pool i) (hx : s.pool i = some x) :
    XactAct i op x (t.pool i) [] := by
  rw [ht, hx]
  exact .idle x.assocXact

theorem receive_act [Ogslib] {env : CreateEnv} {h : GtpHeader} {rv : Rv}
    (hfree : ∀ k, env.slot = some k → s.pool k = none) (hx : s.pool i = some x)
    (hr : ogsGtpXactReceive s env n h b = .ok (t, rv, k)) :
    XactAct i op x (t.pool i)
      (packetsFor i s (.receive env n h b, .received rv k) t) := by
  obtain ⟨org, y, pkbufs, -, hcase⟩ := receive_cases hr
  by_cases hik : i = k
  · subst hik
    rcases hcase with ⟨z, -, hz, hrx, rfl⟩ | ⟨-, hslot, -, -⟩
    · obtain rfl : x = z := Option.some.inj (hx.symm.trans hz)
      rw [packetsFor_self rfl, drop_sent, GtpState.sendto_pool, GtpState.set_pool, if_pos rfl]
      exact .rx hrx
    · rw [hfree i hslot] at hx
      cases hx
  · have hsender : packetsFor i s (.receive env n h b, .received rv k) t = [] :=
      packetsFor_other (by simpa [xactSender] using Ne.symm hik)
    rw [hsender]
    refine act_same ?_ hx
    rcases hcase with ⟨z, -, -, -, rfl⟩ | ⟨-, -, -, rfl⟩
    · rw [GtpState.sendto_pool, GtpState.set_pool, if_neg hik]
    · rw [GtpState.sendto_pool, GtpState.set_pool, if_neg hik, GtpState.insert_pool, if_neg hik]

theorem commit_act (hx : s.pool i = some x) (h : ogsGtpXactCommit s k b = .ok t) :
    XactAct i (.commit k b) x (t.pool i) (packetsFor i s (.commit k b, .done) t) := by
  unfold ogsGtpXactCommit at h
  simp only [Fallible.bind_eq_ok, GtpState.find_eq_ok] at h
  obtain ⟨z, hz, o, ho, h⟩ := h
  by_cases hik : k = i
  · subst hik
    obtain rfl : x = z := Option.some.inj (hx.symm.trans hz)
    rw [packetsFor_self rfl]
    cases o with
    | none =>
      rw [delete_sent h, List.drop_length, (delete_detached h).2]
      exact .deleted
    | some y =>
      simp only [Fallible.bind_eq_ok, Fallible.assertSome_eq_ok, Fallible.pure_eq_ok,
        Except.ok.injEq] at h
      obtain ⟨e, he, p, hp, -, -, rfl⟩ := h
      rw [drop_sent, GtpState.sendto_pool, GtpState.set_pool, if_pos rfl]
      exact .commit rfl (commitStage_eq_some ho) he hp
  · have hsender : packetsFor i s (.commit k b, .done) t = [] :=
      packetsFor_other (by simpa [xactSender] using hik)
    rw [hsender]
    cases o with
    | none => exact (delete_detached h).1.act hx
    | some y =>
      simp only [Fallible.bind_eq_ok, Fallible.pure_eq_ok, Except.ok.injEq] at h
      obtain ⟨e, -, p, -, -, -, rfl⟩ := h
      refine act_same ?_ hx
      rw [GtpState.sendto_pool, GtpState.set_pool, if_neg (Ne.symm hik)]

/-- A transaction that is written to before another one, or itself, is deleted -/
theorem delete_set_act {y : GtpXact} (hx : s.pool i = some x)
    (h : ogsGtpXactDelete (s.set k y) k = .ok t) : XactAct i op x (t.pool i) [] := by
  by_cases hik : i = k
  · subst hik
    rw [(delete_detached h).2]
    exact .deleted
  · have hset : (s.set k y).pool i = some x := by
      rw [GtpState.set_pool, if_neg hik, hx]
    exact (delete_detached h).1.act hset

theorem responseTimeout_act (hx : s.pool i = some x)
    (hrun : ∃ z, s.pool k = some z ∧ z.tmResponse = true)
    (h : responseTimeout s k b = .ok t) :
    XactAct i (.responseTimeout k b) x (t.pool i)
      (packetsFor i s (.responseTimeout k b, .done) t) := by
  obtain ⟨w, hw, hrun⟩ := hrun
  unfold responseTimeout at h
  simp only [Fallible.bind_eq_ok, GtpState.find_eq_ok] at h
  obtain ⟨z, hz, e, he, h⟩ := h
  obtain rfl : w = z := Option.some.inj (hw.symm.trans hz)
  have hgone : ∀ y, ogsGtpXactDelete (s.set k y) k = .ok t →
      XactAct i (.responseTimeout k b) x (t.pool i)
        (packetsFor i s (.responseTimeout k b, .done) t) := by
    intro y hd
    have hnil : packetsFor i s (.responseTimeout k b, .done) t = [] := by
      rw [packetsFor, delete_sent hd]
      simp [GtpState.set]
    rw [hnil]
    exact delete_set_act hx hd
  split at h
  case isTrue hcount =>
    simp only [Fallible.bind_eq_ok, Fallible.assertSome_eq_ok] at h
    obtain ⟨p, hp, h⟩ := h
    split at h
    case isTrue =>
      simp only [Fallible.pure_eq_ok, Except.ok.injEq] at h
      subst h
      by_cases hik : k = i
      · subst hik
        obtain rfl : x = w := Option.some.inj (hx.symm.trans hw)
        rw [packetsFor_self rfl, drop_sent, GtpState.sendto_pool, GtpState.set_pool, if_pos rfl,
          ← hrun]
        exact .response hrun hcount he hp
      · rw [packetsFor_other (by simpa [xactSender] using hik)]
        refine act_same ?_ hx
        rw [GtpState.sendto_pool, GtpState.set_pool, if_neg (Ne.symm hik)]
    case isFalse => exact hgone _ h
  case isFalse => exact hgone _ h

theorem holdingTimeout_act (hx : s.pool i = some x)
    (hrun : ∃ z, s.pool k = some z ∧ z.tmHolding = true) (h : holdingTimeout s k = .ok t) :
    XactAct i (.holdingTimeout k) x (t.pool i) [] := by
  obtain ⟨w, hw, hrun⟩ := hrun
  unfold holdingTimeout at h
  simp only [Fallible.bind_eq_ok, GtpState.find_eq_ok] at h
  obtain ⟨z, hz, e, -, h⟩ := h
  obtain rfl : w = z := Option.some.inj (hw.symm.trans hz)
  split at h
  case isTrue hcount =>
    simp only [Fallible.pure_eq_ok, Except.ok.injEq] at h
    subst h
    by_cases hik : k = i
    · subst hik
      obtain rfl : x = w := Option.some.inj (hx.symm.trans hw)
      rw [GtpState.set_pool, if_pos rfl, ← hrun]
      exact .holding hrun hcount
    · refine act_same ?_ hx
      rw [GtpState.set_pool, if_neg (Ne.symm hik)]
  case isFalse => exact delete_set_act hx h

/-- A transaction stays as it is when two are associated, but for its partner. -/
theorem associate_kept (hx : s.pool i = some x) (h : ogsGtpXactAssociate s j k = .ok t) :
    ∃ a, t.pool i = some { x with assocXact := a } := by
  unfold ogsGtpXactAssociate at h
  simp only [Fallible.bind_eq_ok, GtpState.find_eq_ok, Fallible.assert_eq_ok,
    Fallible.pure_eq_ok, Except.ok.injEq] at h
  obtain ⟨y, hy, -, -, -, -, -, -, w, hw, rfl⟩ := h
  have hset : ∃ a, (s.set j { y with assocXact := some k }).pool i =
      some { x with assocXact := a } := by
    rw [GtpState.set_pool]
    by_cases hij : i = j
    · subst hij
      obtain rfl : x = y := Option.some.inj (hx.symm.trans hy)
      exact ⟨some k, if_pos rfl⟩
    · exact ⟨x.assocXact, (if_neg hij).trans hx⟩
  obtain ⟨a, ha⟩ := hset
  rw [GtpState.set_pool]
  by_cases hik : i = k
  · subst hik
    obtain rfl := Option.some.inj (hw.symm.trans ha)
    exact ⟨some j, if_pos rfl⟩
  · exact ⟨a, (if_neg hik).trans ha⟩

theorem associate_act (hx : s.pool i = some x) (h : ogsGtpXactAssociate s j k = .ok t) :
    XactAct i op x (t.pool i) [] := by
  obtain ⟨a, ha⟩ := associate_kept hx h
  rw [ha]
  exact .idle a

/-- Everything one call can do to one transaction, and all it sends for it -/
theorem XactStep.act [Ogslib] (h : XactStep s (op, out) t) (hx : s.pool i = some x) :
    XactAct i op x (t.pool i) (packetsFor i s (op, out) t) := by
  obtain ⟨hen, hex⟩ := h
  cases op with
  | localCreate env n hdesc pkbuf =>
    simp only [XactOp.exec, ogsGtpXactLocalCreate, Fallible.bind_eq_ok,
      Fallible.assertSome_eq_ok, Fallible.pure_eq_ok, Except.ok.injEq, Prod.mk.injEq] at hex
    obtain ⟨_, ⟨k, hk, -, -, -, -, y, hy, rfl⟩, rfl, rfl⟩ := hex
    have hne : i ≠ k := by
      rintro rfl
      rw [hen i hk] at hx
      cases hx
    rw [packetsFor_other (by simp [xactSender]), GtpState.insert_pool, if_neg hne]
    exact act_same rfl hx
  | receive env n h b =>
    simp only [XactOp.exec, Fallible.bind_eq_ok, Fallible.pure_eq_ok, Except.ok.injEq,
      Prod.mk.injEq] at hex
    obtain ⟨⟨u, rv, k⟩, hu, rfl, rfl⟩ := hex
    exact receive_act hen hx hu
  | updateTx k hdesc pkbuf =>
    simp only [XactOp.exec, Fallible.bind_eq_ok, GtpState.find_eq_ok, Fallible.pure_eq_ok,
      Except.ok.injEq, Prod.mk.injEq] at hex
    obtain ⟨z, hz, y, hy, rfl, rfl⟩ := hex
    rw [packetsFor_other (by simp [xactSender]), GtpState.set_pool]
    by_cases hik : i = k
    · subst hik
      obtain rfl : x = z := Option.some.inj (hx.symm.trans hz)
      rw [if_pos rfl]
      exact .tx rfl (updateTx_eq_ok.mp hy)
    · rw [if_neg hik]
      exact act_same rfl hx
  | commit k b =>
    simp only [XactOp.exec, Fallible.bind_eq_ok, Fallible.pure_eq_ok, Except.ok.injEq,
      Prod.mk.injEq] at hex
    obtain ⟨u, hu, rfl, rfl⟩ := hex
    exact commit_act hx hu
  | responseTimeout k b =>
    simp only [XactOp.exec, Fallible.bind_eq_ok, Fallible.pure_eq_ok, Except.ok.injEq,
      Prod.mk.injEq] at hex
    obtain ⟨u, hu, rfl, rfl⟩ := hex
    exact responseTimeout_act hx hen hu
  | holdingTimeout k =>
    simp only [XactOp.exec, Fallible.bind_eq_ok, Fallible.pure_eq_ok, Except.ok.injEq,
      Prod.mk.injEq] at hex
    obtain ⟨u, hu, rfl, rfl⟩ := hex
    rw [packetsFor_other (by simp [xactSender])]
    exact holdingTimeout_act hx hen hu
  | associate j k =>
    simp only [XactOp.exec, Fallible.bind_eq_ok, Fallible.pure_eq_ok, Except.ok.injEq,
      Prod.mk.injEq] at hex
    obtain ⟨u, hu, rfl, rfl⟩ := hex
    rw [packetsFor_other (by simp [xactSender])]
    exact associate_act hx hu
  | deassociate j k =>
    simp only [XactOp.exec, Fallible.bind_eq_ok, Fallible.pure_eq_ok, Except.ok.injEq,
      Prod.mk.injEq] at hex
    obtain ⟨u, hu, rfl, rfl⟩ := hex
    rw [packetsFor_other (by simp [xactSender])]
    exact (deassociate_detached hu).act hx
  | deleteAll n =>
    simp only [XactOp.exec, Fallible.bind_eq_ok, Fallible.pure_eq_ok, Except.ok.injEq,
      Prod.mk.injEq] at hex
    obtain ⟨u, hu, rfl, rfl⟩ := hex
    rw [packetsFor_other (by simp [xactSender])]
    exact (deleteAll_detached hu).act hx

end

end NextEpc

import NextEpc.Gtp.XactId
import NextEpc.Sgw.Bearer

/-!
# The events of the gateway as calls of the transaction layer

Every event of the gateway is a sequence of calls of the transaction layer, in which
partners are made and parted in pairs. What holds in every run of the transaction layer
therefore holds in every run of the gateway.
-/

namespace NextEpc

/-- The calls the gateway makes: partners are made and parted in pairs, and the messages are
bearer requests and messages that end a procedure. -/
def SgwOk (s : GtpState) (label : XactOp × XactOut) : Prop :=
  AssocOk s label ∧ ∀ env gnode h sendto, label.1 = .receive env gnode h sendto →
    h.type ∈ GtpType.bearerRequests ++ GtpType.finals

def SgwCalls [Ogslib] : GtpState → GtpState → Prop := Lts.Reaches (Lts.Restrict SgwOk XactStep)

theorem S5cMessage.type_mem (m : S5cMessage) : m.type ∈ GtpType.bearerRequests := by
  cases m <;> simp [S5cMessage.type, GtpType.bearerRequests]

theorem not_mem_finals : ∀ type ∈ GtpType.bearerRequests, type ∉ GtpType.finals := by
  decide +kernel

theorem S11Message.type_mem (m : S11Message) : m.type ∈ GtpType.finals := by
  cases m <;> simp [S11Message.type, GtpType.finals]

section
variable [Ogslib] {s t u : GtpState} {env : SgwEnv} {i j : XactIdx} {x y : GtpXact}
  {sqn : Octets4} {type : UInt8} {event : SgwEvent} {out : SgwOut}

theorem SgwCalls.snoc {op : XactOp} {out : XactOut} (h : SgwCalls s t)
    (hstep : XactStep t (op, out) u) (hok : SgwOk t (op, out)) : SgwCalls s u :=
  Relation.ReflTransGen.tail h ⟨(op, out), hok, hstep⟩

theorem receive_step {c : CreateEnv} {n : NodeId} {h : GtpHeader} {b : Bool} {rv : Rv}
    (hfree : ∀ i, c.slot = some i → s.pool i = none)
    (hr : ogsGtpXactReceive s c n h b = .ok (t, rv, i)) :
    XactStep s (.receive c n h b, .received rv i) t :=
  ⟨hfree, by rw [XactOp.exec, hr]; rfl⟩

theorem receive_calls {c : CreateEnv} {n : NodeId} {h : GtpHeader} {b : Bool} {rv : Rv}
    (hfree : ∀ i, c.slot = some i → s.pool i = none)
    (htype : h.type ∈ GtpType.bearerRequests ++ GtpType.finals)
    (hr : ogsGtpXactReceive s c n h b = .ok (t, rv, i)) : SgwCalls s t := by
  refine SgwCalls.snoc Relation.ReflTransGen.refl (receive_step hfree hr) ⟨trivial, ?_⟩
  intro env gnode h' sendto hop
  cases hop
  exact htype

theorem commit_step {b : Bool} (h : ogsGtpXactCommit s i b = .ok t) :
    XactStep s (.commit i b, .done) t :=
  ⟨trivial, by rw [XactOp.exec, h]; rfl⟩

theorem localCreate_step {c : CreateEnv} {n : NodeId} {hdesc : GtpHeader} {pkbuf : Bytes}
    (hfree : ∀ i, c.slot = some i → s.pool i = none)
    (h : ogsGtpXactLocalCreate s c n hdesc pkbuf = .ok (t, i)) :
    XactStep s (.localCreate c n hdesc pkbuf, .created i) t :=
  ⟨hfree, by rw [XactOp.exec, h]; rfl⟩

/-- A transaction that has just been created: its slot, and what it looks like. -/
theorem localCreate_pool {c : CreateEnv} {n : NodeId} {hdesc : GtpHeader} {pkbuf : Bytes}
    (h : ogsGtpXactLocalCreate s c n hdesc pkbuf = .ok (t, i)) :
    c.slot = some i ∧ ∃ x, t.pool i = some x ∧ x.org = .localOriginator ∧ x.step = 1 := by
  unfold ogsGtpXactLocalCreate at h
  simp only [Fallible.bind_eq_ok, Fallible.assertSome_eq_ok, Fallible.pure_eq_ok,
    Except.ok.injEq, Prod.mk.injEq] at h
  obtain ⟨k, hk, -, -, -, -, x, hx, rfl, rfl⟩ := h
  refine ⟨hk, x, by simp, ?_⟩
  cases updateTx_eq_ok.mp hx with
  | initial => exact ⟨rfl, rfl⟩
  | reply horg => cases horg
  | final _ _ hstep => cases hstep

theorem sendS11Request_calls {sgwUe : SgwUe} (hlive : s.pool i ≠ none)
    (hfree : ∀ i, env.localCreate.slot = some i → s.pool i = none)
    (h : sgwSendS11Request s env i sgwUe type sqn = .ok t) :
    ∃ v w j, XactStep s (.localCreate env.localCreate sgwUe.gnode
        ⟨type, sgwUe.mmeS11Teid, sqn⟩ (env.built.getD []), .created j) v ∧
      XactStep v (.associate i j, .done) w ∧ i ≠ j ∧ XactStep w (.commit j env.sendto, .done) t ∧
      env.localCreate.slot = some j ∧
      ∃ x, v.pool j = some x ∧ x.org = .localOriginator ∧ x.step = 1 := by
  unfold sgwSendS11Request at h
  simp only [Fallible.bind_eq_ok, Fallible.assertSome_eq_ok] at h
  obtain ⟨p, hp, ⟨v, j⟩, hv, w, hw, ht⟩ := h
  obtain ⟨hslot, hnew⟩ := localCreate_pool hv
  have hij : i ≠ j := by
    rintro rfl
    exact hlive (hfree i hslot)
  refine ⟨v, w, j, ?_, ⟨trivial, by rw [XactOp.exec, hw]; rfl⟩, hij, commit_step ht, hslot, hnew⟩
  rw [hp, Option.getD_some]
  exact localCreate_step hfree hv

theorem sendS5cResponse_calls (h : sgwSendS5cResponse s env i type sqn = .ok t) :
    SgwCalls s t := by
  unfold sgwSendS5cResponse at h
  simp only [Fallible.bind_eq_ok, Fallible.assertSome_eq_ok, Fallible.assert_eq_ok,
    GtpState.find_eq_ok] at h
  obtain ⟨sess, -, -, -, p, -, x, hx, y, hy, ht⟩ := h
  have htx : XactStep s (.updateTx i ⟨type, sess.pgwS5cTeid, sqn⟩ p, .done) (s.set i y) := by
    refine ⟨trivial, ?_⟩
    rw [XactOp.exec, GtpState.find_eq_ok.mpr hx, Fallible.ok_bind, hy]
    rfl
  have hcalls := SgwCalls.snoc Relation.ReflTransGen.refl htx
    ⟨trivial, fun _ _ _ _ hop => by cases hop⟩
  exact hcalls.snoc (commit_step ht) ⟨trivial, fun _ _ _ _ hop => by cases hop⟩

/-- A received message has a live transaction, and takes no slot but its own. -/
theorem receive_frame {c : CreateEnv} {n : NodeId} {h : GtpHeader} {b : Bool} {rv : Rv}
    (hr : ogsGtpXactReceive s c n h b = .ok (t, rv, i)) :
    t.pool i ≠ none ∧ ∀ j, s.pool j = none → c.slot ≠ some j → t.pool j = none := by
  obtain ⟨org, y, pkbufs, -, hcase⟩ := receive_cases hr
  rcases hcase with ⟨x, -, hx, -, rfl⟩ | ⟨-, hslot, -, rfl⟩
  · refine ⟨by simp, fun j hj _ => ?_⟩
    have hji : j ≠ i := by
      rintro rfl
      rw [hx] at hj
      cases hj
    simp [hji, hj]
  · refine ⟨by simp, fun j hj hne => ?_⟩
    have hji : j ≠ i := by
      rintro rfl
      exact hne hslot
    simp [hji, hj]

theorem s5cMessage_cases {sess : Option SgwSess} {teid : UInt32} {message : S5cMessage}
    (h : SgwStep s (.s5cMessage env sess teid sqn message, out) t) :
    ∃ n v rv i, ogsGtpXactReceive s env.remoteCreate n ⟨message.type, teid, sqn⟩ env.sendto =
        .ok (v, rv, i) ∧
      (t = v ∨ ∃ sgwUe, sgwSendS11Request v env i sgwUe message.type sqn = .ok t) := by
  have hex := h.2
  unfold sgwStateOperational at hex
  simp only [Fallible.bind_eq_ok, Fallible.assertSome_eq_ok, Fallible.assert_eq_ok] at hex
  obtain ⟨-, -, sess, -, ⟨v, rv, i⟩, hr, hex⟩ := hex
  refine ⟨sess.gnode, v, rv, i, hr, ?_⟩
  by_cases hrv : rv = .ok
  · subst hrv
    rw [if_neg (by simp)] at hex
    cases message with
    | createBearerRequest req =>
      simp only [Fallible.bind_eq_ok, Fallible.pure_eq_ok, Except.ok.injEq,
        Prod.mk.injEq] at hex
      obtain ⟨w, hw, rfl, -⟩ := hex
      unfold sgwS5cHandleCreateBearerRequest at hw
      split_ifs at hw
      case neg =>
        simp only [Fallible.bind_eq_ok] at hw
        obtain ⟨-, -, hw⟩ := hw
        exact .inr ⟨sess.sgwUe, hw⟩
      all_goals exact .inl (Except.ok.inj hw).symm
    | updateBearerRequest req =>
      simp only [Fallible.bind_eq_ok, Fallible.pure_eq_ok, Except.ok.injEq,
        Prod.mk.injEq] at hex
      obtain ⟨w, hw, rfl, -⟩ := hex
      unfold sgwS5cHandleUpdateBearerRequest at hw
      split_ifs at hw
      case neg => exact .inr ⟨sess.sgwUe, hw⟩
      all_goals exact .inl (Except.ok.inj hw).symm
    | deleteBearerRequest req =>
      simp only [Fallible.bind_eq_ok, Fallible.pure_eq_ok, Except.ok.injEq,
        Prod.mk.injEq] at hex
      obtain ⟨w, hw, rfl, -⟩ := hex
      unfold sgwS5cHandleDeleteBearerRequest at hw
      split_ifs at hw
      case neg => exact .inr ⟨sess.sgwUe, hw⟩
      all_goals exact .inl (Except.ok.inj hw).symm
  · rw [if_pos hrv] at hex
    simp only [Fallible.pure_eq_ok, Except.ok.injEq, Prod.mk.injEq] at hex
    exact .inl hex.1.symm

/-- A handled message is committed (an acknowledgement), or answered to the PGW at most. -/
theorem s11Message_cases {sgwUe : Option SgwUe} {teid : UInt32} {message : S11Message}
    (h : SgwStep s (.s11Message env sgwUe teid sqn message, out) t) :
    ∃ n v rv i, ogsGtpXactReceive s env.remoteCreate n ⟨message.type, teid, sqn⟩ env.sendto =
        .ok (v, rv, i) ∧
      ((rv ≠ .ok ∧ t = v) ∨ (rv = .ok ∧ out = .handled i ∧
        (if message = .downlinkDataNotificationAcknowledge then
          ogsGtpXactCommit v i env.sendto = .ok t
        else t = v ∨ ∃ j, sgwSendS5cResponse v env j message.type sqn = .ok t))) := by
  have hex := h.2
  unfold sgwStateOperational at hex
  simp only [Fallible.bind_eq_ok, Fallible.assertSome_eq_ok, Fallible.assert_eq_ok] at hex
  obtain ⟨-, -, ue, -, ⟨v, rv, i⟩, hr, hex⟩ := hex
  refine ⟨ue.gnode, v, rv, i, hr, ?_⟩
  by_cases hrv : rv = .ok
  · subst hrv
    rw [if_neg (by simp)] at hex
    refine .inr ⟨rfl, ?_⟩
    cases message with
    | createBearerResponse req =>
      simp only [Fallible.bind_eq_ok, Fallible.pure_eq_ok, Except.ok.injEq,
        Prod.mk.injEq] at hex
      obtain ⟨w, hw, rfl, rfl⟩ := hex
      refine ⟨rfl, ?_⟩
      rw [if_neg (by simp)]
      unfold sgwS11HandleCreateBearerResponse at hw
      simp only [Fallible.bind_eq_ok, Fallible.assertSome_eq_ok] at hw
      obtain ⟨x, -, j, -, hw⟩ := hw
      split_ifs at hw
      case neg => exact .inr ⟨j, hw⟩
      all_goals exact .inl (Except.ok.inj hw).symm
    | updateBearerResponse req =>
      simp only [Fallible.bind_eq_ok, Fallible.pure_eq_ok, Except.ok.injEq,
        Prod.mk.injEq] at hex
      obtain ⟨w, hw, rfl, rfl⟩ := hex
      refine ⟨rfl, ?_⟩
      rw [if_neg (by simp)]
      unfold sgwS11HandleUpdateBearerResponse at hw
      simp only [Fallible.bind_eq_ok, Fallible.assertSome_eq_ok] at hw
      obtain ⟨x, -, j, -, hw⟩ := hw
      split_ifs at hw
      case neg => exact .inr ⟨j, hw⟩
      all_goals exact .inl (Except.ok.inj hw).symm
    | deleteBearerResponse req =>
      simp only [Fallible.bind_eq_ok, Fallible.pure_eq_ok, Except.ok.injEq,
        Prod.mk.injEq] at hex
      obtain ⟨w, hw, rfl, rfl⟩ := hex
      refine ⟨rfl, ?_⟩
      rw [if_neg (by simp)]
      unfold sgwS11HandleDeleteBearerResponse at hw
      simp only [Fallible.bind_eq_ok, Fallible.assertSome_eq_ok] at hw
      obtain ⟨x, -, j, -, hw⟩ := hw
      split_ifs at hw
      case neg => exact .inr ⟨j, hw⟩
      all_goals exact .inl (Except.ok.inj hw).symm
    | downlinkDataNotificationAcknowledge =>
      simp only [Fallible.bind_eq_ok, Fallible.pure_eq_ok, Except.ok.injEq,
        Prod.mk.injEq] at hex
      obtain ⟨w, hw, rfl, rfl⟩ := hex
      exact ⟨rfl, hw⟩
  · rw [if_pos hrv] at hex
    simp only [Fallible.pure_eq_ok, Except.ok.injEq, Prod.mk.injEq] at hex
    exact .inl ⟨hrv, hex.1.symm⟩

theorem loDldataNoti_cases {sgwUe : SgwUe} (h : SgwStep s (.loDldataNoti env sgwUe, out) t) :
    ∃ hdesc p v j, XactStep s (.localCreate env.localCreate sgwUe.gnode hdesc p, .created j) v ∧
      XactStep v (.commit j env.sendto, .done) t ∧
      env.localCreate.slot = some j ∧
      ∃ x, v.pool j = some x ∧ x.org = .localOriginator ∧ x.step = 1 := by
  obtain ⟨hfree, hex⟩ := h
  simp only [sgwStateOperational, sgwS11HandleLoDldataNotification, Fallible.bind_eq_ok,
    Fallible.pure_eq_ok, Except.ok.injEq, Prod.mk.injEq] at hex
  obtain ⟨w, ⟨p, -, ⟨v, j⟩, hv, ht⟩, rfl, -⟩ := hex
  exact ⟨_, p, v, j, localCreate_step (fun i hi => (hfree.2 i hi).1) hv, commit_step ht,
    localCreate_pool hv⟩

theorem responseTimeout_step {b : Bool} (h : SgwStep s (.responseTimeout i b, out) t) :
    XactStep s (.responseTimeout i b, .done) t := by
  obtain ⟨hen, hex⟩ := h
  simp only [sgwStateOperational, Fallible.bind_eq_ok, Fallible.pure_eq_ok, Except.ok.injEq,
    Prod.mk.injEq] at hex
  obtain ⟨u, hu, rfl, -⟩ := hex
  exact ⟨hen, by rw [XactOp.exec, hu]; rfl⟩

theorem holdingTimeout_step (h : SgwStep s (.holdingTimeout i, out) t) :
    XactStep s (.holdingTimeout i, .done) t := by
  obtain ⟨hen, hex⟩ := h
  simp only [sgwStateOperational, Fallible.bind_eq_ok, Fallible.pure_eq_ok, Except.ok.injEq,
    Prod.mk.injEq] at hex
  obtain ⟨u, hu, rfl, -⟩ := hex
  exact ⟨hen, by rw [XactOp.exec, hu]; rfl⟩

/-- Every event is a sequence of calls of the transaction layer. -/
theorem SgwStep.calls (h : SgwStep s (event, out) t) : SgwCalls s t := by
  cases event with
  | s5cMessage env sess teid sqn m =>
    have hfree : env.Free s := h.1
    obtain ⟨n, v, rv, i, hr, ht⟩ := s5cMessage_cases h
    have hcalls := receive_calls hfree.1 (List.mem_append_left _ m.type_mem) hr
    rcases ht with rfl | ⟨sgwUe, ht⟩
    · exact hcalls
    · obtain ⟨hlive, hframe⟩ := receive_frame hr
      obtain ⟨w, w', j, hcreate, hassoc, hij, hcommit, -⟩ := sendS11Request_calls hlive
        (fun k hk => hframe k (hfree.2 k hk).1 (hfree.2 k hk).2) ht
      have hcalls := hcalls.snoc hcreate ⟨trivial, fun _ _ _ _ hop => by cases hop⟩
      have hcalls := hcalls.snoc hassoc ⟨hij, fun _ _ _ _ hop => by cases hop⟩
      exact hcalls.snoc hcommit ⟨trivial, fun _ _ _ _ hop => by cases hop⟩
  | s11Message env sgwUe teid sqn m =>
    have hfree : env.Free s := h.1
    obtain ⟨n, v, rv, i, hr, ht⟩ := s11Message_cases h
    have hcalls := receive_calls hfree.1 (List.mem_append_right _ m.type_mem) hr
    rcases ht with ⟨-, rfl⟩ | ⟨-, -, ht⟩
    · exact hcalls
    · split_ifs at ht
      · exact hcalls.snoc (commit_step ht) ⟨trivial, fun _ _ _ _ hop => by cases hop⟩
      · rcases ht with rfl | ⟨j, ht⟩
        · exact hcalls
        · exact hcalls.trans (sendS5cResponse_calls ht)
  | loDldataNoti env sgwUe =>
    obtain ⟨hdesc, p, v, j, hcreate, hcommit, -⟩ := loDldataNoti_cases h
    have hcalls := SgwCalls.snoc Relation.ReflTransGen.refl hcreate
      ⟨trivial, fun _ _ _ _ hop => by cases hop⟩
    exact hcalls.snoc hcommit ⟨trivial, fun _ _ _ _ hop => by cases hop⟩
  | responseTimeout i b =>
    exact SgwCalls.snoc Relation.ReflTransGen.refl (responseTimeout_step h)
      ⟨trivial, fun _ _ _ _ hop => by cases hop⟩
  | holdingTimeout i =>
    exact SgwCalls.snoc Relation.ReflTransGen.refl (holdingTimeout_step h)
      ⟨trivial, fun _ _ _ _ hop => by cases hop⟩

/-! ## The states of the gateway -/

/-- The states of the gateway. -/
def SgwReachable (s : GtpState) : Prop := SgwCalls GtpState.init s

theorem SgwReachable.next (hs : SgwReachable s) (h : SgwStep s (event, out) t) :
    SgwReachable t :=
  Relation.ReflTransGen.trans hs h.calls

theorem SgwReachable.assoc (hs : SgwReachable s) : AssocReachable s := by
  refine Relation.ReflTransGen.mono ?_ _ _ hs
  rintro u v ⟨label, hok, hstep⟩
  exact ⟨label, hok.1, hstep⟩

theorem SgwReachable.xact (hs : SgwReachable s) : XactReachable s :=
  Lts.Reaches.of_restrict hs

end

end NextEpc

import NextEpc.Sgw.BearerCalls

/-!
# Transactions that the gateway does not return

A transaction goes back to the pool when it is committed in its last stage or when its
timers have expired. The handlers of the MME's answers to bearer requests commit only the
PGW's transaction. That of the MME has no running timer any more, so it is never returned.
Without such answers nothing is lost.
-/

namespace NextEpc

open Matching

/-- One of the two timers is running. -/
def GtpXact.Armed (x : GtpXact) : Prop := x.tmResponse = true ∨ x.tmHolding = true

/-- Every live transaction has a running timer. -/
def AllArmed (s : GtpState) : Prop := ∀ i x, s.pool i = some x → x.Armed

/-- A timer of the transaction in slot `i` expires. -/
def SgwEvent.IsExpiry (i : XactIdx) (event : SgwEvent) : Prop :=
  (∃ sendto, event = .responseTimeout i sendto) ∨ event = .holdingTimeout i

/-- The transaction in slot `i` is returned to the pool by its timers, whichever of them
expires next and whether or not its packets can be sent. -/
inductive Returns [Ogslib] (i : XactIdx) : GtpState → Prop
  | free {s : GtpState} : s.pool i = none → Returns i s
  | expire {s : GtpState} : (∃ event : SgwEvent, event.IsExpiry i ∧ event.Enabled s) →
      (∀ event : SgwEvent, event.IsExpiry i → event.Enabled s →
        ∃ label t, label.1 = event ∧ SgwStep s label t) →
      (∀ label t, label.1.IsExpiry i → SgwStep s label t → Returns i t) → Returns i s

/-- Every live transaction has a running timer and goes back to the pool. -/
def NoLeak [Ogslib] (s : GtpState) : Prop :=
  ∀ i x, s.pool i = some x → x.Armed ∧ Returns i s

section
variable {s t : GtpState} {i : XactIdx} {x y : GtpXact} {type : UInt8}

/-! ## The timers of one transaction -/

/-- The retry counts are positive, and a request that waits for its answer is not held. -/
structure TimersWf (x : GtpXact) : Prop where
  response_pos : 0 < x.responseRcount
  holding_pos : 0 < x.holdingRcount
  request : x.org = .localOriginator → x.step = 1 → x.tmHolding = false

theorem retryCounts_pos : 0 < gtpT3ResponseRetryCount ∧ 0 < gtpT3DuplicatedRetryCount := by
  decide

theorem TimersWf.change {op : XactOp} (hwf : XactWf x) (hx : TimersWf x)
    (hc : XactChange s op i x y) : TimersWf y := by
  obtain ⟨hr, hh, hreq⟩ := hx
  have hpos := hwf.step_pos
  cases hc with
  | same => exact ⟨hr, hh, hreq⟩
  | tx _ htx =>
    cases updateTx_eq_ok.mp htx with
    | initial _ _ hstep => omega
    | reply => exact ⟨hr, hh, fun _ hstep => by cases hstep⟩
    | final => exact ⟨hr, hh, fun _ hstep => by cases hstep⟩
  | rx _ _ _ hrx =>
    cases updateRx_eq_ok.mp hrx with
    | request _ _ _ hstep => omega
    | triggered => exact ⟨hr, hh, fun _ hstep => by cases hstep⟩
    | response => exact ⟨hr, hh, fun _ hstep => by cases hstep⟩
    | triggeredReply => exact ⟨hr, hh, fun _ hstep => by cases hstep⟩
    | discard => exact ⟨hr, hh, hreq⟩
    | retransmit _ hc =>
      refine ⟨hr, hh, fun horg hstep => ?_⟩
      rcases hc with ⟨hremote, -⟩ | ⟨-, -, -, hstep', -⟩
      · rw [hremote] at horg
        cases horg
      · have hone : x.step = 1 := hstep
        omega
  | commit _ hc =>
    cases commitStage_eq_some hc with
    | request => exact ⟨hr, hh, hreq⟩
    | triggered => exact ⟨hr, hh, hreq⟩
    | reply => exact ⟨hr, hh, hreq⟩
    | triggeredReply => exact ⟨hr, hh, hreq⟩
  | response _ _ hcount => exact ⟨hcount, hh, hreq⟩
  | holding _ _ hcount => exact ⟨hr, hcount, hreq⟩
  | assoc => exact ⟨hr, hh, hreq⟩

theorem commitStage_request (horg : x.org = .localOriginator) (hstep : x.step = 1)
    {o : Option GtpXact} (h : commitStage x = .ok o) :
    o = some { x with tmResponse := true } := by
  unfold commitStage at h
  rw [last_eq x 0 hstep, Fallible.ok_bind] at h
  simp only [horg] at h
  split at h
  case h_1 =>
    rw [Fallible.assert_of hstep, Fallible.ok_bind, Fallible.pure_eq_ok] at h
    rw [← Except.ok.inj h, horg]
  case h_2 =>
    simp only [Fallible.bind_eq_ok, Fallible.assert_eq_ok] at h
    obtain ⟨-, hstep', -⟩ := h
    omega
  case h_5 => cases h
  all_goals contradiction

/-- A request that is committed is waiting for its answer. -/
theorem commit_armed {b : Bool} (h : ogsGtpXactCommit s i b = .ok t)
    (hx : s.pool i = some x) (horg : x.org = .localOriginator) (hstep : x.step = 1) :
    ∀ y, t.pool i = some y → y.Armed := by
  unfold ogsGtpXactCommit at h
  simp only [GtpState.find_eq_ok.mpr hx, Fallible.ok_bind, Fallible.bind_eq_ok] at h
  obtain ⟨o, ho, h⟩ := h
  rw [commitStage_request horg hstep ho] at h
  simp only [Fallible.bind_eq_ok, Fallible.pure_eq_ok, Except.ok.injEq] at h
  obtain ⟨-, -, -, -, -, -, rfl⟩ := h
  intro y hy
  rw [GtpState.sendto_pool, GtpState.set_pool, if_pos rfl] at hy
  rw [← Option.some.inj hy]
  exact .inl rfl

/-- The acknowledgement of a notification returns its transaction. -/
theorem ack_armed {n : NodeId} {b : Bool} (horg : x.org = .localOriginator) (hs : AllArmed s)
    (htype : type ∈ GtpType.finals)
    (h : ogsGtpXactCommit ((s.set i (x.accepted type 1)).sendto n []) i b = .ok t) :
    AllArmed t := by
  have hstage : commitStage (x.accepted type 1) = .ok none := by
    unfold commitStage
    rw [last_eq _ 1 rfl, Fallible.ok_bind]
    have hst : ogsGtpXactGetStage ((x.accepted type 1).seq 1).type (x.accepted type 1).xid =
        .final := by
      simp only [GtpXact.accepted, Function.update_self]
      exact getStage_final htype
    have horg : (x.accepted type 1).org = .localOriginator := horg
    simp only [horg, hst]
    rfl
  unfold ogsGtpXactCommit at h
  have hfind : ((s.set i (x.accepted type 1)).sendto n []).find i = .ok (x.accepted type 1) := by
    simp [GtpState.find_eq_ok]
  rw [hfind, Fallible.ok_bind, hstage, Fallible.ok_bind] at h
  obtain ⟨hdetached, hnone⟩ := delete_detached h
  intro k y hy
  obtain ⟨z, hz, hyz⟩ := hdetached k y hy
  have hki : k ≠ i := by
    rintro rfl
    rw [hnone] at hy
    cases hy
  rw [GtpState.sendto_pool, GtpState.set_pool, if_neg hki] at hz
  have hzarmed := hs k z hz
  rcases hyz with rfl | rfl
  · exact hzarmed
  · exact hzarmed

/-- A transaction that has sent the last message of a procedure stays as it is. -/
theorem commitStage_answer {hdesc : GtpHeader} {p : Bytes} (h : TxCase x hdesc p y)
    (htype : hdesc.type ∈ GtpType.finals) : commitStage y = .ok (some y) := by
  have hst : ∀ xid, ogsGtpXactGetStage hdesc.type xid = .final := fun _ => getStage_final htype
  unfold commitStage
  cases h with
  | initial _ hini => simp [hst] at hini
  | reply horg _ _ =>
    rw [last_eq _ 1 rfl, Fallible.ok_bind]
    simp only [Function.update_self, horg, hst]
    rfl
  | final horg _ _ =>
    rw [last_eq _ 2 rfl, Fallible.ok_bind]
    simp only [Function.update_self, horg, hst]
    rfl

/-- The expiries that are left. -/
def GtpXact.expiries (x : GtpXact) : Nat := x.responseRcount.toNat + x.holdingRcount.toNat

theorem toNat_sub_one_lt {n : UInt8} (h : 0 < n) : (n - 1).toNat < n.toNat := by
  have hpos : 0 < n.toNat := h
  have hone : (1 : UInt8).toNat = 1 := rfl
  have hlt := n.toNat_lt
  rw [UInt8.toNat_sub]
  omega

theorem responseTimeout_expiries {b : Bool} (h : responseTimeout s i b = .ok t)
    (hwf : TimersWf x) (hx : s.pool i = some x) (hy : t.pool i = some y) :
    y.expiries < x.expiries := by
  unfold responseTimeout at h
  rw [GtpState.find_eq_ok.mpr hx, Fallible.ok_bind, Fallible.bind_eq_ok] at h
  obtain ⟨e, -, h⟩ := h
  by_cases hcount : x.responseRcount - 1 > 0
  · simp only [if_pos hcount, Fallible.bind_eq_ok] at h
    obtain ⟨p, -, h⟩ := h
    cases b with
    | true =>
      simp only [if_true, Fallible.pure_eq_ok, Except.ok.injEq] at h
      subst h
      rw [GtpState.sendto_pool, GtpState.set_pool, if_pos rfl] at hy
      rw [← Option.some.inj hy]
      have hlt := toNat_sub_one_lt hwf.response_pos
      simp only [GtpXact.expiries]
      omega
    | false =>
      rw [(delete_detached h).2] at hy
      cases hy
  · simp only [if_neg hcount] at h
    rw [(delete_detached h).2] at hy
    cases hy

theorem holdingTimeout_expiries (h : holdingTimeout s i = .ok t)
    (hwf : TimersWf x) (hx : s.pool i = some x) (hy : t.pool i = some y) :
    y.expiries < x.expiries := by
  unfold holdingTimeout at h
  rw [GtpState.find_eq_ok.mpr hx, Fallible.ok_bind, Fallible.bind_eq_ok] at h
  obtain ⟨e, -, h⟩ := h
  by_cases hcount : x.holdingRcount - 1 > 0
  · simp only [if_pos hcount, Fallible.pure_eq_ok, Except.ok.injEq] at h
    subst h
    rw [GtpState.set_pool, if_pos rfl] at hy
    rw [← Option.some.inj hy]
    have hlt := toNat_sub_one_lt hwf.holding_pos
    simp only [GtpXact.expiries]
    omega
  · simp only [if_neg hcount] at h
    rw [(delete_detached h).2] at hy
    cases hy

theorem SgwEvent.IsExpiry.isAnswer {event : SgwEvent} (h : event.IsExpiry i) :
    event.IsAnswer = false := by
  rcases h with ⟨b, rfl⟩ | rfl <;> rfl

theorem mem_finals {xid : UInt32} (h : ogsGtpXactGetStage type xid = .final) :
    type ∈ GtpType.finals := by
  unfold ogsGtpXactGetStage at h
  split_ifs at h
  assumption

theorem XactChange.armed {op : XactOp} (hx : x.Armed) (hc : XactChange s op i x y)
    (hop : ∀ env n h b, op = .receive env n h b → h.type ∉ GtpType.finals) : y.Armed := by
  cases hc with
  | same => exact hx
  | tx _ htx => cases updateTx_eq_ok.mp htx <;> exact hx
  | rx heq _ _ hrx =>
    have hnot := hop _ _ _ _ heq
    have hfinal : ∀ xid, ogsGtpXactGetStage _ xid ≠ .final :=
      fun xid hst => hnot (mem_finals hst)
    cases updateRx_eq_ok.mp hrx with
    | request => exact .inr rfl
    | triggered => exact .inr rfl
    | response _ hst => exact absurd hst (hfinal _)
    | triggeredReply _ hst => exact absurd hst (hfinal _)
    | discard => exact hx
    | retransmit => exact .inr rfl
  | commit _ hc =>
    cases commitStage_eq_some hc with
    | request => exact .inl rfl
    | triggered => exact .inl rfl
    | reply => exact hx
    | triggeredReply => exact hx
  | response => exact hx
  | holding => exact hx
  | assoc => exact hx

end

section
variable [Ogslib] {s t u v w : GtpState} {env : SgwEnv} {i j k : XactIdx} {x y : GtpXact}
  {sqn : Octets4} {type : UInt8} {event : SgwEvent} {op : XactOp} {out : SgwOut}
  {o : XactOut}

theorem TimersWf.born (hb : XactBorn s op x) : TimersWf x := by
  cases hb with
  | localCreate _ htx =>
    cases updateTx_eq_ok.mp htx with
    | initial => exact ⟨retryCounts_pos.1, retryCounts_pos.2, fun _ _ => rfl⟩
    | reply horg => cases horg
    | final _ _ hstep => cases hstep
  | remoteCreate _ _ _ hrx =>
    obtain ⟨-, -, -, rfl⟩ := (updateRx_eq_ok.mp hrx).fresh_remote
    exact ⟨retryCounts_pos.1, retryCounts_pos.2, fun horg => by cases horg⟩

theorem XactReachable.timers (h : XactReachable s) (hx : s.pool i = some x) : TimersWf x := by
  refine (h.live_invariant (I := fun x => XactWf x ∧ TimersWf x) ?_ ?_ i x hx).2
  · intro s op x hb
    exact ⟨hb.wf, TimersWf.born hb⟩
  · intro s op k x y hc hx
    exact ⟨hc.wf hx.1, hx.2.change hx.1 hc⟩

/-- The gateway takes part in no procedure that a peer opens with the flag set. -/
theorem SgwReachable.remote_xid (hs : SgwReachable s) :
    ∀ i x, s.pool i = some x → x.org = .remoteOriginator → x.xid &&& gtpMaxXactId = 0 := by
  refine Lts.Reaches.invariant (I := fun s => ∀ i x, s.pool i = some x →
    x.org = .remoteOriginator → x.xid &&& gtpMaxXactId = 0) ?_ hs ?_
  · rintro u ⟨op, out⟩ v hu ⟨⟨-, htype⟩, hstep⟩ i y hy hyorg
    rcases hstep.evolves i y hy with ⟨x, hx, hxy⟩ | ⟨-, -, hborn⟩
    · obtain ⟨horg, -, hxid⟩ := hxy.key
      rw [hxid]
      exact hu i x hx (horg.symm.trans hyorg)
    · cases hborn with
      | localCreate _ htx =>
        rw [(updateTx_eq_ok.mp htx).key.1] at hyorg
        cases hyorg
      | remoteCreate hop _ _ hrx =>
        obtain ⟨hst, -, -, rfl⟩ := (updateRx_eq_ok.mp hrx).fresh_remote
        rcases List.mem_append.mp (htype _ _ _ _ hop) with hmem | hmem
        · have hnot : ∀ type ∈ GtpType.bearerRequests, type ∉ GtpType.initials := by
            decide +kernel
          unfold ogsGtpXactGetStage at hst
          rw [if_neg (hnot _ hmem), if_pos hmem] at hst
          by_contra hflag
          change ogsGtpSqnToXid _ &&& gtpMaxXactId ≠ 0 at hflag
          rw [if_pos hflag] at hst
          cases hst
        · rw [getStage_final hmem] at hst
          cases hst
  · intro i x hx
    simp [GtpState.init] at hx

/-! ## Without answers every transaction has a running timer -/

/-- A call other than a creation and an answer stops no timer. -/
theorem XactStep.armed {P : XactIdx → Prop} (h : XactStep s (op, o) t)
    (hs : ∀ k x, P k → s.pool k = some x → x.Armed)
    (hrx : ∀ env n h b, op = .receive env n h b → h.type ∉ GtpType.finals)
    (hnew : ∀ env n h p k, op = .localCreate env n h p → env.slot = some k → ¬P k) :
    ∀ k x, P k → t.pool k = some x → x.Armed := by
  intro k y hk hy
  rcases h.evolves k y hy with ⟨x, hx, hxy⟩ | ⟨hslot, -, hborn⟩
  · exact hxy.armed (hs k x hk hx) hrx
  · cases hborn with
    | localCreate hop _ =>
      subst hop
      exact absurd hk (hnew _ _ _ _ k rfl hslot)
    | remoteCreate _ _ _ hrx =>
      obtain ⟨-, -, -, rfl⟩ := (updateRx_eq_ok.mp hrx).fresh_remote
      exact .inr rfl

theorem localCreate_armed {c : CreateEnv} {n : NodeId} {hdesc : GtpHeader} {p : Bytes}
    (hs : AllArmed s) (h : XactStep s (.localCreate c n hdesc p, o) t)
    (hslot : c.slot = some j) : ∀ k x, k ≠ j → t.pool k = some x → x.Armed := by
  refine h.armed (fun k x _ => hs k x) (fun _ _ _ _ hop => by cases hop) ?_
  intro c' n' h' p' k hop hk
  cases hop
  exact not_not.mpr (Option.some.inj (hk.symm.trans hslot))

theorem request_armed {b : Bool} (hs : ∀ k x, k ≠ j → s.pool k = some x → x.Armed)
    (hx : ∃ x, s.pool j = some x ∧ x.org = .localOriginator ∧ x.step = 1)
    (hcommit : XactStep s (.commit j b, .done) t) : AllArmed t := by
  have ht : ∀ k x, k ≠ j → t.pool k = some x → x.Armed :=
    hcommit.armed hs (fun _ _ _ _ hop => by cases hop) (fun _ _ _ _ _ hop => by cases hop)
  have hex := hcommit.2
  simp only [XactOp.exec, Fallible.bind_eq_ok, Fallible.pure_eq_ok, Except.ok.injEq,
    Prod.mk.injEq] at hex
  obtain ⟨u, hu, rfl, -⟩ := hex
  obtain ⟨x, hx, horg, hstep⟩ := hx
  intro k y hy
  by_cases hk : k = j
  · subst hk
    exact commit_armed hu hx horg hstep y hy
  · exact ht k y hk hy

theorem associate_request (h : XactStep s (.associate i j, o) t)
    (hx : ∃ x, s.pool j = some x ∧ x.org = .localOriginator ∧ x.step = 1) :
    ∃ x, t.pool j = some x ∧ x.org = .localOriginator ∧ x.step = 1 := by
  obtain ⟨x, hx, horg, hstep⟩ := hx
  have hex := h.2
  simp only [XactOp.exec, ogsGtpXactAssociate, Fallible.bind_eq_ok, GtpState.find_eq_ok,
    Fallible.assert_eq_ok, Fallible.pure_eq_ok, Except.ok.injEq, Prod.mk.injEq] at hex
  obtain ⟨-, ⟨x1, hx1, x2, -, -, -, -, -, z, hz, rfl⟩, rfl, -⟩ := hex
  have hzx : z.org = x.org ∧ z.step = x.step := by
    rw [GtpState.set_pool] at hz
    by_cases hji : j = i
    · subst hji
      rw [if_pos rfl] at hz
      obtain rfl : x = x1 := Option.some.inj (hx.symm.trans hx1)
      rw [← Option.some.inj hz]
      exact ⟨rfl, rfl⟩
    · rw [if_neg hji, hx] at hz
      rw [← Option.some.inj hz]
      exact ⟨rfl, rfl⟩
  refine ⟨{ z with assocXact := some i }, by simp, ?_, ?_⟩
  · exact hzx.1.trans horg
  · exact hzx.2.trans hstep

/-- A message that ends a procedure is the answer to a request of the gateway. -/
theorem SgwReachable.final_received {c : CreateEnv} {n : NodeId} {h : GtpHeader} {b : Bool}
    {rv : Rv} (hs : SgwReachable s) (htype : h.type ∈ GtpType.finals)
    (hr : ogsGtpXactReceive s c n h b = .ok (t, rv, i)) :
    rv = .ok ∧ ∃ x, s.pool i = some x ∧ x.org = .localOriginator ∧ x.step = 1 ∧
      t = (s.set i (x.accepted h.type 1)).sendto n [] := by
  have hst : ∀ xid, ogsGtpXactGetStage h.type xid = .final := fun _ => getStage_final htype
  obtain ⟨org, y, pkbufs, horg, hcase⟩ := receive_cases hr
  rcases hcase with ⟨x, hl, hx, hrx, rfl⟩ | ⟨-, -, hrx, -⟩
  · cases hrx with
    | response hloc _ hstep => exact ⟨rfl, x, hx, hloc, hstep, rfl⟩
    | triggeredReply hremote _ _ =>
      have hxid := hs.remote_xid i x hx hremote
      obtain ⟨z, hz, hzorg, -, hzxid⟩ := lookup_eq_some hs.xact.linked hl
      obtain rfl : x = z := Option.some.inj (hx.symm.trans hz)
      have hclear : xactListOf h.type (ogsGtpSqnToXid h.sqn) = some .localOriginator := by
        simp [xactListOf, hst, ← hzxid, hxid]
      have hlocal := Option.some.inj (horg.symm.trans hclear)
      rw [hlocal, hremote] at hzorg
      cases hzorg
    | request _ hini => simp [hst] at hini
    | triggered _ hint => simp [hst] at hint
    | discard hc => simp [hst] at hc
    | retransmit _ hc => simp [hst] at hc
  · have hini := hrx.fresh_remote.1
    rw [hst] at hini
    cases hini

/-- A call that creates nothing and ends no procedure leaves every timer running. -/
theorem AllArmed.next (hs : AllArmed s) (h : XactStep s (op, o) t)
    (hrx : ∀ env n h b, op = .receive env n h b → h.type ∉ GtpType.finals)
    (hnew : ∀ env n h p, op ≠ .localCreate env n h p) : AllArmed t := by
  intro k x hx
  refine h.armed (P := fun _ => True) (fun k x _ => hs k x) hrx ?_ k x trivial hx
  intro env n hdesc p _ hop
  exact absurd hop (hnew env n hdesc p)

/-- An event other than an answer leaves every transaction with a running timer. -/
theorem SgwReachable.armed_next (hs : SgwReachable s) (harmed : AllArmed s)
    (h : SgwStep s (event, out) t) (hans : event.IsAnswer = false) : AllArmed t := by
  cases event with
  | s5cMessage env sess teid sqn m =>
    have hfree : env.Free s := h.1
    obtain ⟨n, v, rv, i, hr, ht⟩ := s5cMessage_cases h
    have hv : AllArmed v := by
      refine harmed.next (receive_step hfree.1 hr) ?_ (fun _ _ _ _ hop => by cases hop)
      intro _ _ _ _ hop
      cases hop
      exact not_mem_finals m.type m.type_mem
    rcases ht with rfl | ⟨sgwUe, ht⟩
    · exact hv
    · obtain ⟨hlive, hframe⟩ := receive_frame hr
      obtain ⟨w, w', j, hcreate, hassoc, -, hcommit, hslot, hnew⟩ :=
        sendS11Request_calls hlive
          (fun k hk => hframe k (hfree.2 k hk).1 (hfree.2 k hk).2) ht
      have hw := localCreate_armed hv hcreate hslot
      have hw' := hassoc.armed hw (fun _ _ _ _ hop => by cases hop)
        (fun _ _ _ _ _ hop => by cases hop)
      exact request_armed hw' (associate_request hassoc hnew) hcommit
  | s11Message env sgwUe teid sqn m =>
    obtain ⟨n, v, rv, i, hr, ht⟩ := s11Message_cases h
    obtain ⟨hrv, x, hx, horg, -, rfl⟩ := hs.final_received m.type_mem hr
    have hm : m = .downlinkDataNotificationAcknowledge := by
      cases m with
      | downlinkDataNotificationAcknowledge => rfl
      | _ => cases hans
    rcases ht with ⟨hne, -⟩ | ⟨-, -, ht⟩
    · exact absurd hrv hne
    · rw [if_pos hm] at ht
      exact ack_armed horg harmed m.type_mem ht
  | loDldataNoti env sgwUe =>
    obtain ⟨hdesc, p, v, j, hcreate, hcommit, hslot, hnew⟩ := loDldataNoti_cases h
    exact request_armed (localCreate_armed harmed hcreate hslot) hnew hcommit
  | responseTimeout i b =>
    exact harmed.next (responseTimeout_step h) (fun _ _ _ _ hop => by cases hop)
      (fun _ _ _ _ hop => by cases hop)
  | holdingTimeout i =>
    exact harmed.next (holdingTimeout_step h) (fun _ _ _ _ hop => by cases hop)
      (fun _ _ _ _ hop => by cases hop)

/-! ## An answer leaves a transaction without a timer -/

omit [Ogslib] in
/-- The answer to the PGW changes no timer. -/
theorem sendS5cResponse_armed (htype : type ∈ GtpType.finals)
    (h : sgwSendS5cResponse s env j type sqn = .ok t) (hx : s.pool i = some x) :
    ∃ y, t.pool i = some y ∧ (y.Armed → x.Armed) := by
  unfold sgwSendS5cResponse at h
  simp only [Fallible.bind_eq_ok, Fallible.assertSome_eq_ok, Fallible.assert_eq_ok,
    GtpState.find_eq_ok] at h
  obtain ⟨sess, -, -, -, p, -, z, hz, y, hy, ht⟩ := h
  have hcase := updateTx_eq_ok.mp hy
  have hfind : (s.set j y).find j = .ok y := by simp [GtpState.find_eq_ok]
  unfold ogsGtpXactCommit at ht
  rw [hfind, Fallible.ok_bind, commitStage_answer hcase htype, Fallible.ok_bind] at ht
  simp only [Fallible.bind_eq_ok, Fallible.pure_eq_ok, Except.ok.injEq] at ht
  obtain ⟨-, -, -, -, -, -, rfl⟩ := ht
  simp only [GtpState.sendto_pool, GtpState.set_pool]
  by_cases hij : i = j
  · subst hij
    obtain rfl : x = z := Option.some.inj (hx.symm.trans hz)
    refine ⟨y, by simp, ?_⟩
    cases hcase <;> exact id
  · exact ⟨x, by simp [hij, hx], id⟩

/-- The MME's transaction of a bearer request is still there when its answer has been
handled, and its timers have been stopped. -/
theorem SgwReachable.answer_leaks (hs : SgwReachable s) (h : SgwStep s (event, out) t)
    (hans : event.IsAnswer = true) :
    ∃ i x, out = .handled i ∧ t.pool i = some x ∧ ¬x.Armed := by
  cases event with
  | s11Message env sgwUe teid sqn m =>
    have hm : m ≠ .downlinkDataNotificationAcknowledge := by
      rintro rfl
      cases hans
    obtain ⟨n, v, rv, i, hr, ht⟩ := s11Message_cases h
    obtain ⟨hrv, x, hx, horg, hstep, rfl⟩ := hs.final_received m.type_mem hr
    have hlive : ((s.set i (x.accepted m.type 1)).sendto n []).pool i =
        some (x.accepted m.type 1) := by simp
    have hidle : ¬(x.accepted m.type 1).Armed := by
      have hhold := (hs.xact.timers hx).request horg hstep
      simp [GtpXact.Armed, GtpXact.accepted, hhold]
    rcases ht with ⟨hne, -⟩ | ⟨-, rfl, ht⟩
    · exact absurd hrv hne
    · rw [if_neg hm] at ht
      rcases ht with rfl | ⟨j, ht⟩
      · exact ⟨i, _, rfl, hlive, hidle⟩
      · obtain ⟨y, hy, hyx⟩ := sendS5cResponse_armed m.type_mem ht hlive
        exact ⟨i, y, rfl, hy, fun hya => hidle (hyx hya)⟩
  | _ => cases hans

/-! ## The timers return a transaction -/

/-- A transaction can be deleted after its timer fields have been written. -/
theorem SgwReachable.delete (hs : SgwReachable s) (hx : s.pool i = some x)
    (hy : y.assocXact = x.assocXact) : ∃ t, ogsGtpXactDelete (s.set i y) i = .ok t := by
  have hm := set_matching hs.assoc.matching hx hy
  have hi : (s.set i y).pool i = some y := by simp
  obtain ⟨t, ht, -⟩ := delete_of_matching hm hi
  exact ⟨t, ht⟩

theorem SgwReachable.responseTimeout_returns (hs : SgwReachable s) (hx : s.pool i = some x)
    (hrun : x.tmResponse = true) (b : Bool) :
    ∃ t, SgwStep s (.responseTimeout i b, .done) t := by
  obtain ⟨k, hk, hp⟩ := (hs.xact.wf hx).armed_pkbuf hrun
  obtain ⟨p, hp⟩ := Option.isSome_iff_exists.mp hp
  have hret : ∃ t, responseTimeout s i b = .ok t := by
    unfold responseTimeout
    rw [GtpState.find_eq_ok.mpr hx, Fallible.ok_bind, last_eq x k hk, Fallible.ok_bind]
    by_cases hcount : x.responseRcount - 1 > 0
    · simp only [if_pos hcount, hp, Fallible.assertSome_some, Fallible.ok_bind]
      cases b
      · exact hs.delete hx rfl
      · exact ⟨_, rfl⟩
    · simp only [if_neg hcount]
      exact hs.delete hx rfl
  obtain ⟨t, ht⟩ := hret
  exact ⟨t, ⟨x, hx, hrun⟩, by simp only [sgwStateOperational, ht]; rfl⟩

theorem SgwReachable.holdingTimeout_returns (hs : SgwReachable s) (hx : s.pool i = some x)
    (hrun : x.tmHolding = true) : ∃ t, SgwStep s (.holdingTimeout i, .done) t := by
  obtain ⟨k, hk⟩ := (hs.xact.wf hx).exists_last
  have hret : ∃ t, holdingTimeout s i = .ok t := by
    unfold holdingTimeout
    rw [GtpState.find_eq_ok.mpr hx, Fallible.ok_bind, last_eq x k hk, Fallible.ok_bind]
    by_cases hcount : x.holdingRcount - 1 > 0
    · simp only [if_pos hcount]
      exact ⟨_, rfl⟩
    · simp only [if_neg hcount]
      exact hs.delete hx rfl
  obtain ⟨t, ht⟩ := hret
  exact ⟨t, ⟨x, hx, hrun⟩, by simp only [sgwStateOperational, ht]; rfl⟩

theorem SgwReachable.expiries (hs : SgwReachable s) (h : SgwStep s (event, out) t)
    (hevent : event.IsExpiry i) (hx : s.pool i = some x) (hy : t.pool i = some y) :
    y.expiries < x.expiries := by
  have hwf := hs.xact.timers hx
  have hex := h.2
  rcases hevent with ⟨b, rfl⟩ | rfl
  · simp only [sgwStateOperational, Fallible.bind_eq_ok, Fallible.pure_eq_ok, Except.ok.injEq,
      Prod.mk.injEq] at hex
    obtain ⟨u, hu, rfl, -⟩ := hex
    exact responseTimeout_expiries hu hwf hx hy
  · simp only [sgwStateOperational, Fallible.bind_eq_ok, Fallible.pure_eq_ok, Except.ok.injEq,
      Prod.mk.injEq] at hex
    obtain ⟨u, hu, rfl, -⟩ := hex
    exact holdingTimeout_expiries hu hwf hx hy

/-- Every expiry either returns the transaction or uses up one of the expiries left. -/
theorem SgwReachable.returns (hs : SgwReachable s) (harmed : AllArmed s) (i : XactIdx) :
    Returns i s := by
  have hrec : ∀ n s, SgwReachable s → AllArmed s →
      (∀ x, s.pool i = some x → x.expiries < n) → Returns i s := by
    intro n
    induction n with
    | zero =>
      intro s _ _ hlt
      refine .free (Option.eq_none_iff_forall_ne_some.mpr fun x hx => ?_)
      exact Nat.not_lt_zero _ (hlt x hx)
    | succ n ih =>
      intro s hs harmed hlt
      cases hx : s.pool i with
      | none => exact .free hx
      | some x =>
        refine .expire ?_ ?_ ?_
        · rcases harmed i x hx with hrun | hrun
          · exact ⟨.responseTimeout i true, .inl ⟨true, rfl⟩, x, hx, hrun⟩
          · exact ⟨.holdingTimeout i, .inr rfl, x, hx, hrun⟩
        · rintro event (⟨b, rfl⟩ | rfl) ⟨y, hy, hrun⟩
          · obtain ⟨t, ht⟩ := hs.responseTimeout_returns hy hrun b
            exact ⟨_, t, rfl, ht⟩
          · obtain ⟨t, ht⟩ := hs.holdingTimeout_returns hy hrun
            exact ⟨_, t, rfl, ht⟩
        · rintro ⟨event, out⟩ t hevent hstep
          refine ih t (hs.next hstep) (hs.armed_next harmed hstep hevent.isAnswer) ?_
          intro y hy
          have hlty := hs.expiries hstep hevent hx hy
          have hltx := hlt x hx
          omega
  cases hx : s.pool i with
  | none => exact .free hx
  | some x =>
    refine hrec (x.expiries + 1) s hs harmed fun y hy => ?_
    obtain rfl : x = y := Option.some.inj (hx.symm.trans hy)
    exact Nat.lt_succ_self _

/-- A run of the gateway loses no transaction, and its requests to the MME are returned when
they have been answered, exactly if no answer of the MME is handled in it. -/
theorem sgw_no_leak_iff {tr : List ((SgwEvent × SgwOut) × GtpState)}
    (htr : Lts.Trace SgwStep GtpState.init tr) :
    ((∀ p ∈ tr, NoLeak p.2) ∧
      (∀ p ∈ tr, ∀ i, p.1.1.IsAnswer = true → p.1.2 = .handled i → p.2.pool i = none)) ↔
    ∀ p ∈ tr, p.1.1.IsAnswer = false := by
  constructor
  · rintro ⟨hleak, -⟩ p hp
    rw [← Bool.not_eq_true]
    intro hans
    have hI := htr.invariant_of (I := SgwReachable) (Q := fun _ => True)
      (fun s a t hs hst _ => hs.next hst) (fun _ _ => trivial) Relation.ReflTransGen.refl p hp
    obtain ⟨s, hs, hst, -⟩ := hI
    obtain ⟨i, x, -, hx, hidle⟩ := hs.answer_leaks hst hans
    exact hidle (hleak p hp i x hx).1
  · intro hno
    have hI := htr.invariant_of (I := fun s => SgwReachable s ∧ AllArmed s)
      (Q := fun p => p.1.1.IsAnswer = false)
      (fun s a t hs hst ha => ⟨hs.1.next hst, hs.1.armed_next hs.2 hst ha⟩) hno
      ⟨Relation.ReflTransGen.refl, fun i x hx => by cases hx⟩
    refine ⟨fun p hp i x hx => ?_, fun p hp i hans => ?_⟩
    · obtain ⟨-, -, -, hreach, harmed⟩ := hI p hp
      exact ⟨harmed i x hx, hreach.returns harmed i⟩
    · rw [hno p hp] at hans
      cases hans

end

section
attribute [local instance] Ogslib.reference

/-- A PGW's request to create a bearer; its transaction gets slot 0, that of the MME slot 1. -/
def createBearer : SgwEvent :=
  .s5cMessage ⟨true, true, none, some [], ⟨some 0, true, true⟩, ⟨some 1, true, true⟩, true⟩
    (some ⟨2, 7, ⟨1, 9⟩⟩) 5 #v[0, 0, 1, 0] (.createBearerRequest ⟨true, true, true, true⟩)

/-- The MME's answer, with all its information elements. -/
def bearerCreated : SgwEvent :=
  .s11Message ⟨true, true, some ⟨2, 7, ⟨1, 9⟩⟩, some [], ⟨none, true, true⟩, ⟨none, true, true⟩,
    true⟩ (some ⟨1, 9⟩) 5 #v[0, 0, 1, 0] (.createBearerResponse ⟨true, true, true, true, true⟩)

theorem createBearer_enabled : createBearer.Enabled GtpState.init :=
  ⟨fun _ _ => rfl, fun _ hi => ⟨rfl, by cases hi; decide⟩⟩

/-- A request alone is not lost. -/
theorem sgw_no_leak_iff_request : ∃ t, SgwStep GtpState.init (createBearer, .handled 0) t ∧
    (∃ x, t.pool 1 = some x) ∧ NoLeak t := by
  have hstep : ∃ t, SgwStep GtpState.init (createBearer, .handled 0) t ∧ ∃ x, t.pool 1 = some x :=
    ⟨_, ⟨createBearer_enabled, rfl⟩, _, rfl⟩
  obtain ⟨t, ht, hlive⟩ := hstep
  have hno := (sgw_no_leak_iff (.cons ht (.nil t))).mpr (by simp [createBearer, SgwEvent.IsAnswer])
  exact ⟨t, ht, hlive, hno.1 _ List.mem_cons_self⟩

/-- A request and its answer: the transaction of the MME in slot 1 is not returned. -/
theorem sgw_answer_leak : ∃ s t, Lts.Trace SgwStep GtpState.init
      [((createBearer, .handled 0), s), ((bearerCreated, .handled 1), t)] ∧
    t.pool 1 ≠ none ∧ ¬NoLeak t := by
  have hrun : ∃ s t x, SgwStep GtpState.init (createBearer, .handled 0) s ∧
      SgwStep s (bearerCreated, .handled 1) t ∧ t.pool 1 = some x ∧ x.tmResponse = false ∧
      x.tmHolding = false :=
    ⟨_, _, _, ⟨createBearer_enabled, rfl⟩,
      ⟨⟨fun _ hi => (by cases hi), fun _ hi => (by cases hi)⟩, rfl⟩, rfl, rfl, rfl⟩
  obtain ⟨s, t, x, hs, ht, hx, hresponse, hholding⟩ := hrun
  refine ⟨s, t, .cons hs (.cons ht (.nil t)), by simp [hx], fun hleak => ?_⟩
  have harmed := (hleak 1 x hx).1
  simp [GtpXact.Armed, hresponse, hholding] at harmed

end

end NextEpc

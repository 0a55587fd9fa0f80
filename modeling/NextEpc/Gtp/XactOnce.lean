import NextEpc.Gtp.XactTable

/-!
# Duplicate requests

A request that arrives again while its transaction is alive is not processed again. Before
the reply is known the copy is dropped; afterwards the stored reply is sent once more.
-/

namespace NextEpc

/-- The message is a copy of `h`, a request of peer `gnode`. -/
def IsDuplicate (gnode : NodeId) (h : GtpHeader) (op : XactOp) : Prop :=
  ∃ env h' sendto, op = .receive env gnode h' sendto ∧ h'.type = h.type ∧ h'.sqn = h.sqn

/-- A message of peer `gnode` for the transaction that the request `h` opened can only be
a copy of `h`. -/
def OnlyDuplicates (gnode : NodeId) (h : GtpHeader) (op : XactOp) : Prop :=
  ∀ env h' sendto, op = .receive env gnode h' sendto →
    ogsGtpSqnToXid h'.sqn = ogsGtpSqnToXid h.sqn →
    xactListOf h'.type (ogsGtpSqnToXid h'.sqn) = some .remoteOriginator → h'.type = h.type

/-- The transaction that the request `h` opened, before the peer answers its reply. -/
structure Opened (gnode : NodeId) (h : GtpHeader) (x : GtpXact) : Prop where
  org : x.org = .remoteOriginator
  gnode : x.gnode = gnode
  xid : x.xid = ogsGtpSqnToXid h.sqn
  type : (x.seq 0).type = h.type
  step : x.step = 1 ∨ x.step = 2

/-- What a run needs to know of its states. -/
structure Serving [Ogslib] (gnode : NodeId) (h : GtpHeader) (i : XactIdx) (s : GtpState) :
    Prop where
  reachable : XactReachable s
  opened : ∃ x, s.pool i = some x ∧ Opened gnode h x

section
variable {s t : GtpState} {i j : XactIdx} {x y : GtpXact} {op : XactOp} {out : XactOut}
  {n : NodeId} {h h' : GtpHeader}

theorem Opened.rx (hx : Opened n h x) {type : UInt8} {b : Bool} {rv : Rv} {pkbufs : List Bytes}
    (hst : ogsGtpXactGetStage h.type x.xid = .initial) (htype : type = h.type)
    (hrx : RxCase x type b rv y pkbufs) :
    rv = .retry ∧ Opened n h y ∧ y.step = x.step ∧ y.seq = x.seq ∧
      pkbufs = (x.seq 1).pkbuf.toList := by
  subst htype
  cases hrx with
  | request _ _ hnew => exact absurd hx.type hnew
  | triggered horg => rw [hx.org] at horg; cases horg
  | response horg => rw [hx.org] at horg; cases horg
  | triggeredReply _ hst' => rw [hst] at hst'; cases hst'
  | discard hc =>
    rcases hc with ⟨-, -, -, -, hp⟩ | ⟨horg, -⟩
    · exact ⟨rfl, hx, rfl, rfl, by rw [hp]; rfl⟩
    · rw [hx.org] at horg; cases horg
  | retransmit _ hc =>
    rcases hc with ⟨-, -, -, -, hp⟩ | ⟨horg, -⟩
    · exact ⟨rfl, ⟨hx.org, hx.gnode, hx.xid, hx.type, hx.step⟩, rfl, rfl, by rw [hp]; rfl⟩
    · rw [hx.org] at horg; cases horg

theorem Opened.tx (hx : Opened n h x) {hdesc : GtpHeader} {pkbuf : Bytes}
    (htx : TxCase x hdesc pkbuf y) : Opened n h y := by
  cases htx with
  | initial horg => rw [hx.org] at horg; cases horg
  | reply _ _ _ =>
    refine ⟨hx.org, hx.gnode, hx.xid, ?_, .inr rfl⟩
    simpa using hx.type
  | final horg => rw [hx.org] at horg; cases horg

theorem Opened.commit (hx : Opened n h x) (hc : CommitCase x y) : Opened n h y := by
  cases hc <;> exact ⟨hx.org, hx.gnode, hx.xid, hx.type, hx.step⟩

/-- Until the peer answers the reply, whatever happens to the transaction leaves it open. -/
theorem Opened.change (hx : Opened n h x) (hlinked : Linked s) (hi : s.pool i = some x)
    (hst : ogsGtpXactGetStage h.type (ogsGtpSqnToXid h.sqn) = .initial)
    (honly : OnlyDuplicates n h op) (hc : XactChange s op i x y) : Opened n h y := by
  cases hc with
  | same => exact hx
  | tx _ htx => exact hx.tx (updateTx_eq_ok.mp htx)
  | rx hop horg hl hrx =>
    obtain ⟨x', hx', hxorg, hxnode, hxxid⟩ := lookup_eq_some hlinked hl
    obtain rfl : x' = x := Option.some.inj (hx'.symm.trans hi)
    obtain rfl := hxnode.symm.trans hx.gnode
    obtain rfl := hxorg.symm.trans hx.org
    have htype := honly _ _ _ hop (hxxid.symm.trans hx.xid) horg
    exact (hx.rx (by rw [hx.xid, hst]) htype (updateRx_eq_ok.mp hrx)).2.1
  | commit _ hc => exact hx.commit (commitStage_eq_some hc)
  | response => exact ⟨hx.org, hx.gnode, hx.xid, hx.type, hx.step⟩
  | holding => exact ⟨hx.org, hx.gnode, hx.xid, hx.type, hx.step⟩
  | assoc => exact ⟨hx.org, hx.gnode, hx.xid, hx.type, hx.step⟩

theorem Serving.next [Ogslib] (hs : Serving n h i s)
    (hst : ogsGtpXactGetStage h.type (ogsGtpSqnToXid h.sqn) = .initial)
    (hstep : XactStep s (op, out) t) (honly : OnlyDuplicates n h op) (hlive : t.pool i ≠ none) :
    Serving n h i t := by
  obtain ⟨x, hx, hopen⟩ := hs.opened
  obtain ⟨y, hy⟩ := Option.ne_none_iff_exists'.mp hlive
  refine ⟨hs.reachable.next hstep.1 hstep.2, y, hy, ?_⟩
  rcases hstep.evolves i y hy with ⟨x', hx', hc⟩ | ⟨-, hnone, -⟩
  · obtain rfl : x = x' := Option.some.inj (hx.symm.trans hx')
    exact hopen.change hs.reachable.linked hx hst honly hc
  · rw [hx] at hnone
    cases hnone

/-- A request of a peer that has no transaction with its identity opens one. -/
theorem receive_opens [Ogslib] {env : CreateEnv} {b : Bool} {rv : Rv}
    (hnew : s.lookup .remoteOriginator n (ogsGtpSqnToXid h.sqn) = none)
    (hst : ogsGtpXactGetStage h.type (ogsGtpSqnToXid h.sqn) = .initial)
    (hr : ogsGtpXactReceive s env n h b = .ok (t, rv, i)) :
    rv = .ok ∧ ∃ y, t.pool i = some y ∧ Opened n h y := by
  obtain ⟨org, y, pkbufs, horg, hcase⟩ := receive_cases hr
  obtain rfl : org = .remoteOriginator := by
    rw [xactListOf, hst] at horg
    exact (Option.some.inj horg).symm
  rcases hcase with ⟨x, hl, -⟩ | ⟨-, -, hrx, rfl⟩
  · rw [hnew] at hl
    cases hl
  · obtain ⟨-, hrv, -, hy⟩ := hrx.fresh_remote
    refine ⟨hrv, y, by simp, ?_⟩
    subst hy
    exact ⟨rfl, rfl, rfl, rfl, .inl rfl⟩

theorem Serving.lookup [Ogslib] (hs : Serving n h i s) :
    s.lookup .remoteOriginator n (ogsGtpSqnToXid h.sqn) = some i := by
  obtain ⟨x, hx, hopen⟩ := hs.opened
  have hl := hs.reachable.uniqueRemote.lookup hs.reachable.linked hx hopen.org
  rwa [hopen.gnode, hopen.xid] at hl

/-- A copy that is received is a retry. -/
theorem Serving.retry [Ogslib] (hs : Serving n h i s)
    (hst : ogsGtpXactGetStage h.type (ogsGtpSqnToXid h.sqn) = .initial)
    (hstep : XactStep s (op, out) t) (hdup : IsDuplicate n h op) : out = .received .retry i := by
  obtain ⟨env, h', b, rfl, htype, hsqn⟩ := hdup
  obtain ⟨-, hex⟩ := hstep
  simp only [XactOp.exec, Fallible.bind_eq_ok, Fallible.pure_eq_ok, Except.ok.injEq,
    Prod.mk.injEq] at hex
  obtain ⟨⟨u, rv, j⟩, hr, -, rfl⟩ := hex
  obtain ⟨x, hx, hopen⟩ := hs.opened
  obtain ⟨org, y, pkbufs, horg, hcase⟩ := receive_cases hr
  rw [htype, hsqn, xactListOf, hst] at horg
  obtain rfl := Option.some.inj horg
  rw [hsqn, hs.lookup] at hcase
  rcases hcase with ⟨x', hl, hx', hrx, -⟩ | ⟨hl, -⟩
  · obtain rfl := Option.some.inj hl
    obtain rfl : x = x' := Option.some.inj (hx.symm.trans hx')
    rw [(hopen.rx (by rw [hopen.xid, hst]) htype hrx).1]
  · cases hl

/-- A copy is received, if the stored reply can be sent, and changes neither the step nor
the records. -/
theorem Serving.receive [Ogslib] (hs : Serving n h i s)
    (hst : ogsGtpXactGetStage h.type (ogsGtpSqnToXid h.sqn) = .initial)
    (hx : s.pool i = some x) (env : CreateEnv) {b : Bool}
    (hsend : (x.seq 1).pkbuf.isSome = true → b = true) (htype : h'.type = h.type)
    (hsqn : h'.sqn = h.sqn) :
    ∃ t y, ogsGtpXactReceive s env n h' b = .ok (t, .retry, i) ∧ t.pool i = some y ∧
      y.step = x.step ∧ y.seq = x.seq ∧
      t.sent = s.sent ++ (x.seq 1).pkbuf.toList.map (n, ·) := by
  obtain ⟨x', hx', hopen⟩ := hs.opened
  obtain rfl : x = x' := Option.some.inj (hx.symm.trans hx')
  have hst' : ogsGtpXactGetStage h.type x.xid = .initial := by rw [hopen.xid, hst]
  have hrx : ∃ rv y pkbufs, RxCase x h'.type b rv y pkbufs := by
    have hdup : (x.seq 0).type = h'.type := by rw [hopen.type, htype]
    rw [← htype] at hst'
    cases hp : (x.seq 1).pkbuf with
    | none => exact ⟨_, _, _, .discard (.inl ⟨hopen.org, hst', hdup, hopen.step, hp⟩)⟩
    | some p =>
      have hb : b = true := hsend (by rw [hp]; rfl)
      exact ⟨_, _, _, .retransmit hb (.inl ⟨hopen.org, hst', hdup, hopen.step, hp⟩)⟩
  obtain ⟨rv, y, pkbufs, hrx⟩ := hrx
  obtain ⟨rfl, -, hstep, hseq, hpkbufs⟩ := hopen.rx hst' htype hrx
  refine ⟨(s.set i y).sendto n pkbufs, y, ?_, by simp, hstep, hseq, by rw [hpkbufs]; rfl⟩
  have horg : xactListOf h'.type (ogsGtpSqnToXid h'.sqn) = some .remoteOriginator := by
    rw [htype, hsqn, xactListOf, hst]
  have hl : s.lookup .remoteOriginator n (ogsGtpSqnToXid h'.sqn) = some i := by
    rw [hsqn, hs.lookup]
  exact receive_of_lookup env horg hl hx hrx

/-- At most once: let the request `h` open a transaction in slot `i` and let a run follow in
which that slot stays in use and the peer sends only copies of `h` for it. The request has
been accepted, every copy in the run was a retry, and in every state of the run a copy is
received as a retry that changes neither step nor records and sends the stored reply. -/
theorem receive_at_most_once [Ogslib] {env : CreateEnv} {b : Bool} {rv : Rv}
    {tr : List ((XactOp × XactOut) × GtpState)} (hs : XactReachable s)
    (hst : ogsGtpXactGetStage h.type (ogsGtpSqnToXid h.sqn) = .initial)
    (hnew : s.lookup .remoteOriginator n (ogsGtpSqnToXid h.sqn) = none)
    (hfirst : XactStep s (.receive env n h b, .received rv i) t)
    (htr : Lts.Trace XactStep t tr)
    (hrun : ∀ p ∈ tr, OnlyDuplicates n h p.1.1 ∧ p.2.pool i ≠ none) :
    rv = .ok ∧
    (∀ p ∈ tr, IsDuplicate n h p.1.1 → p.1.2 = .received .retry i) ∧
    (∀ u ∈ t :: tr.map Prod.snd, ∀ x, u.pool i = some x → ∀ env' h' b',
      h'.type = h.type → h'.sqn = h.sqn → ((x.seq 1).pkbuf.isSome = true → b' = true) →
      ∃ v y, ogsGtpXactReceive u env' n h' b' = .ok (v, .retry, i) ∧ v.pool i = some y ∧
        y.step = x.step ∧ y.seq = x.seq ∧
        v.sent = u.sent ++ (x.seq 1).pkbuf.toList.map (n, ·)) := by
  have hex := hfirst.2
  simp only [XactOp.exec, Fallible.bind_eq_ok, Fallible.pure_eq_ok, Except.ok.injEq,
    Prod.mk.injEq, XactOut.received.injEq] at hex
  obtain ⟨⟨u, rv', k⟩, hr, rfl, rfl, rfl⟩ := hex
  obtain ⟨hrv, hopened⟩ := receive_opens hnew hst hr
  have ht : Serving n h k u := ⟨hs.next hfirst.1 hfirst.2, hopened⟩
  have hall := htr.invariant_of (I := Serving n h k)
    (fun s a t hs hstep hq => hs.next hst hstep hq.1 hq.2) hrun ht
  refine ⟨hrv, ?_, ?_⟩
  · intro p hp hdup
    obtain ⟨v, hv, hstep, -⟩ := hall p hp
    exact hv.retry hst hstep hdup
  · intro v hv x hx env' h' b' htype hsqn hsend
    have hserving : Serving n h k v := by
      rcases List.mem_cons.mp hv with rfl | hv
      · exact ht
      · obtain ⟨p, hp, rfl⟩ := List.mem_map.mp hv
        obtain ⟨-, -, -, hp⟩ := hall p hp
        exact hp
    exact hserving.receive hst hx env' hsend htype hsqn

end

section
attribute [local instance] Ogslib.reference

/-- A Create Session Request, the reply to it and a copy of the request: the copy gets the
reply that was sent before. -/
theorem receive_at_most_once_reply : ∃ u p v y, u.sent = [(1, p)] ∧
    ogsGtpXactReceive u ⟨none, true, true⟩ 1
      ⟨GtpType.createSessionRequest, 0, #v[0, 0, 1, 0]⟩ true = .ok (v, .retry, 0) ∧
    v.pool 0 = some y ∧ y.step = 2 ∧ v.sent = [(1, p), (1, p)] := by
  have hrequest : XactStep GtpState.init (.receive ⟨some 0, true, true⟩ 1
      ⟨GtpType.createSessionRequest, 0, #v[0, 0, 1, 0]⟩ true, .received .ok 0) _ :=
    ⟨fun _ _ => rfl, rfl⟩
  have hreply := hrequest.next
    (.updateTx 0 ⟨GtpType.createSessionResponse, 7, #v[0, 0, 0, 0]⟩ []) trivial rfl
  have hcommit := hreply.next (.commit 0 true) trivial rfl
  have honce := receive_at_most_once .init rfl rfl hrequest
    (.cons hreply (.cons hcommit (.nil _))) (by
    intro p hp
    rcases List.mem_cons.mp hp with rfl | hp
    · exact ⟨fun _ _ _ hop => (by cases hop), Option.some_ne_none _⟩
    · obtain rfl := List.mem_singleton.mp hp
      exact ⟨fun _ _ _ hop => (by cases hop), Option.some_ne_none _⟩)
  have hcopy := honce.2.2 _ (List.mem_cons_of_mem _ (List.mem_cons_of_mem _ List.mem_cons_self))
    _ rfl ⟨none, true, true⟩ ⟨GtpType.createSessionRequest, 0, #v[0, 0, 1, 0]⟩ true rfl rfl
    (fun _ => rfl)
  obtain ⟨v, y, hr, hy, hstep, -, hsent⟩ := hcopy
  exact ⟨_, _, v, y, rfl, hr, hy, hstep, hsent⟩

end

end NextEpc

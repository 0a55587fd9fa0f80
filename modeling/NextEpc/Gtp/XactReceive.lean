import NextEpc.Gtp.XactTable

/-!
# Messages that can be received

Which step a message is follows from its type, its sequence number and the transaction it
is routed to, all of which the peer chooses. `ogs_gtp_xact_receive` asserts that the step is
the next one: it returns exactly for the messages that are `Receivable`, and a peer can end
the process with any other.
-/

namespace NextEpc

/-- The transaction that a message is routed to waits for it or has already had it. -/
def Receivable (s : GtpState) (gnode : NodeId) (h : GtpHeader) : Prop :=
  match ogsGtpXactGetStage h.type (ogsGtpSqnToXid h.sqn) with
  | .unknown => False
  | .initial => ∀ i x, s.pool i = some x → x.org = .remoteOriginator → x.gnode = gnode →
      x.xid = ogsGtpSqnToXid h.sqn → x.initialType = h.type ∧ x.step ≤ 2
  | .intermediate => ∃ i x, s.lookup .localOriginator gnode (ogsGtpSqnToXid h.sqn) = some i ∧
      s.pool i = some x ∧ (x.step = 1 ∨ x.triggeredType = h.type)
  | .final =>
    if ogsGtpSqnToXid h.sqn &&& gtpMaxXactId ≠ 0 then
      ∃ i x, s.lookup .remoteOriginator gnode (ogsGtpSqnToXid h.sqn) = some i ∧
        s.pool i = some x ∧ x.step = 2
    else
      ∃ i x, s.lookup .localOriginator gnode (ogsGtpSqnToXid h.sqn) = some i ∧
        s.pool i = some x ∧ x.step = 1

section
variable {s : GtpState} {i : XactIdx} {x : GtpXact} {type : UInt8}

/-- `ogs_gtp_xact_update_rx` returns if its packets can be sent. -/
def RxReturns (x : GtpXact) (type : UInt8) : Prop :=
  ∃ rv y pkbufs, RxCase x type true rv y pkbufs

theorem rxReturns_duplicate {j k : Fin 3}
    (h : (x.org = .remoteOriginator ∧ ogsGtpXactGetStage type x.xid = .initial ∧ j = 0 ∧ k = 1 ∧
        (x.step = 1 ∨ x.step = 2)) ∨
      (x.org = .localOriginator ∧ ogsGtpXactGetStage type x.xid = .intermediate ∧ j = 1 ∧ k = 2 ∧
        (x.step = 2 ∨ x.step = 3)))
    (hdup : (x.seq j).type = type) : RxReturns x type := by
  cases hp : (x.seq k).pkbuf with
  | none =>
    refine ⟨_, _, _, .discard ?_⟩
    rcases h with ⟨horg, hst, rfl, rfl, hstep⟩ | ⟨horg, hst, rfl, rfl, hstep⟩
    · exact .inl ⟨horg, hst, hdup, hstep, hp⟩
    · exact .inr ⟨horg, hst, hdup, hstep, hp⟩
  | some pkbuf =>
    refine ⟨.retry, { x with tmHolding := true }, [pkbuf], .retransmit rfl ?_⟩
    rcases h with ⟨horg, hst, rfl, rfl, hstep⟩ | ⟨horg, hst, rfl, rfl, hstep⟩
    · exact .inl ⟨horg, hst, hdup, hstep, hp⟩
    · exact .inr ⟨horg, hst, hdup, hstep, hp⟩

theorem rxReturns_initial (hwf : XactWf x) (horg : x.org = .remoteOriginator)
    (hst : ogsGtpXactGetStage type x.xid = .initial) :
    RxReturns x type ↔ x.initialType = type ∧ x.step ≤ 2 := by
  have hpos := hwf.step_pos
  constructor
  · rintro ⟨rv, y, pkbufs, h⟩
    cases h with
    | request _ _ _ hstep => omega
    | triggered horg' => rw [horg] at horg'; cases horg'
    | response horg' => rw [horg] at horg'; cases horg'
    | triggeredReply _ hst' => rw [hst] at hst'; cases hst'
    | discard hc =>
      rcases hc with ⟨-, -, hdup, hstep, -⟩ | ⟨horg', -⟩
      · exact ⟨hdup, by omega⟩
      · rw [horg] at horg'; cases horg'
    | retransmit _ hc =>
      rcases hc with ⟨-, -, hdup, hstep, -⟩ | ⟨horg', -⟩
      · exact ⟨hdup, by omega⟩
      · rw [horg] at horg'; cases horg'
  · rintro ⟨hdup, hle⟩
    exact rxReturns_duplicate (j := 0) (k := 1)
      (.inl ⟨horg, hst, rfl, rfl, by omega⟩) hdup

theorem rxReturns_intermediate (hwf : XactWf x) (horg : x.org = .localOriginator)
    (hst : ogsGtpXactGetStage type x.xid = .intermediate) :
    RxReturns x type ↔ x.step = 1 ∨ x.triggeredType = type := by
  have hle := hwf.step_le
  have htype : type ≠ 0 := type_ne_zero (by rw [hst]; decide)
  have hrec : (x.seq 1).type ≠ 0 ↔ 1 < x.step := (hwf.recorded 1).1
  constructor
  · rintro ⟨rv, y, pkbufs, h⟩
    cases h with
    | request horg' => rw [horg] at horg'; cases horg'
    | triggered _ _ _ hstep => exact .inl hstep
    | response _ _ hstep => exact .inl hstep
    | triggeredReply horg' => rw [horg] at horg'; cases horg'
    | discard hc =>
      rcases hc with ⟨horg', -⟩ | ⟨-, -, hdup, -⟩
      · rw [horg] at horg'; cases horg'
      · exact .inr hdup
    | retransmit _ hc =>
      rcases hc with ⟨horg', -⟩ | ⟨-, -, hdup, -⟩
      · rw [horg] at horg'; cases horg'
      · exact .inr hdup
  · intro h
    by_cases hdup : (x.seq 1).type = type
    · have hstep : 1 < x.step := hrec.mp (by rw [hdup]; exact htype)
      exact rxReturns_duplicate (j := 1) (k := 2)
        (.inr ⟨horg, hst, rfl, rfl, by omega⟩) hdup
    · have hstep : x.step = 1 := h.resolve_right hdup
      exact ⟨_, _, _, .triggered horg hst hdup hstep⟩

theorem rxReturns_final (hst : ogsGtpXactGetStage type x.xid = .final) :
    RxReturns x type ↔ (x.org = .localOriginator ∧ x.step = 1) ∨
      (x.org = .remoteOriginator ∧ x.step = 2) := by
  constructor
  · rintro ⟨rv, y, pkbufs, h⟩
    cases h with
    | request _ hst' => rw [hst] at hst'; cases hst'
    | triggered _ hst' => rw [hst] at hst'; cases hst'
    | response horg _ hstep => exact .inl ⟨horg, hstep⟩
    | triggeredReply horg _ hstep => exact .inr ⟨horg, hstep⟩
    | discard hc =>
      rcases hc with ⟨-, hst', -⟩ | ⟨-, hst', -⟩ <;> (rw [hst] at hst'; cases hst')
    | retransmit _ hc =>
      rcases hc with ⟨-, hst', -⟩ | ⟨-, hst', -⟩ <;> (rw [hst] at hst'; cases hst')
  · rintro (⟨horg, hstep⟩ | ⟨horg, hstep⟩)
    · exact ⟨_, _, _, .response horg hst hstep⟩
    · exact ⟨_, _, _, .triggeredReply horg hst hstep⟩

theorem rxReturns_fresh (xid : UInt32) (n : NodeId) :
    RxReturns (.fresh .remoteOriginator xid n) type ↔
      ogsGtpXactGetStage type xid = .initial := by
  constructor
  · rintro ⟨rv, y, pkbufs, h⟩
    exact h.fresh_remote.1
  · intro hst
    have htype : (0 : UInt8) ≠ type := (type_ne_zero (by rw [hst]; decide)).symm
    exact ⟨_, _, _, .request rfl hst htype rfl⟩

/-- The call returns if and only if the transaction found or created can be updated. -/
theorem receive_returns [Ogslib] {env : CreateEnv} {n : NodeId} {h : GtpHeader} {k : XactIdx}
    (hslot : env.slot = some k) (htr : env.tmResponse = true) (hth : env.tmHolding = true) :
    (∃ r, ogsGtpXactReceive s env n h true = .ok r) ↔
      ∃ org, xactListOf h.type (ogsGtpSqnToXid h.sqn) = some org ∧
        ((∃ i x, s.lookup org n (ogsGtpSqnToXid h.sqn) = some i ∧ s.pool i = some x ∧
            RxReturns x h.type) ∨
          (s.lookup org n (ogsGtpSqnToXid h.sqn) = none ∧
            ogsGtpXactGetStage h.type (ogsGtpSqnToXid h.sqn) = .initial)) := by
  constructor
  · rintro ⟨⟨t, rv, i⟩, hr⟩
    obtain ⟨org, y, pkbufs, horg, hcase⟩ := receive_cases hr
    refine ⟨org, horg, ?_⟩
    rcases hcase with ⟨x, hl, hx, hrx, -⟩ | ⟨hl, -, hrx, -⟩
    · exact .inl ⟨i, x, hl, hx, rv, y, pkbufs, hrx⟩
    · exact .inr ⟨hl, hrx.fresh_remote.1⟩
  · rintro ⟨org, horg, ⟨i, x, hl, hx, rv, y, pkbufs, hrx⟩ | ⟨hl, hst⟩⟩
    · exact ⟨_, receive_of_lookup env horg hl hx hrx⟩
    · obtain ⟨rv, y, pkbufs, hrx⟩ := (rxReturns_fresh _ n).mpr hst
      have hfind : (s.insert k (.fresh .remoteOriginator (ogsGtpSqnToXid h.sqn) n)).find k =
          .ok (.fresh .remoteOriginator (ogsGtpSqnToXid h.sqn) n) := by
        rw [GtpState.find_eq_ok, GtpState.insert_pool, if_pos rfl]
      unfold ogsGtpXactReceive ogsGtpXactFindByXid
      rw [horg, Fallible.assertSome_some, Fallible.ok_bind, Fallible.pure_eq_ok,
        Fallible.ok_bind]
      simp only [hl, ogsGtpXactRemoteCreate, hslot, htr, hth, Fallible.assertSome_some,
        Fallible.assert_of, Fallible.pure_eq_ok, Fallible.ok_bind, hfind,
        updateRx_eq_ok.mpr hrx]
      exact ⟨_, rfl⟩

/-- In every reachable state, given a free slot, timers and a working socket, receiving a
message returns if and only if the message is receivable. -/
theorem receive_returns_iff [Ogslib] {env : CreateEnv} {k : XactIdx} (h : XactReachable s)
    (hslot : env.slot = some k) (htr : env.tmResponse = true) (hth : env.tmHolding = true)
    (gnode : NodeId) (hdr : GtpHeader) :
    (∃ r, ogsGtpXactReceive s env gnode hdr true = .ok r) ↔ Receivable s gnode hdr := by
  have hlinked := h.linked
  rw [receive_returns hslot htr hth]
  unfold Receivable xactListOf
  cases hst : ogsGtpXactGetStage hdr.type (ogsGtpSqnToXid hdr.sqn) with
  | unknown => simp
  | initial =>
    simp only [Option.some.injEq, exists_eq_left', and_true]
    constructor
    · rintro (⟨i, x, hl, hx, hret⟩ | hl) j y hy horg hnode hxid
      · obtain ⟨x', hx', hxorg, hxnode, hxxid⟩ := lookup_eq_some hlinked hl
        obtain rfl : x' = x := Option.some.inj (hx'.symm.trans hx)
        obtain rfl : i = j := h.uniqueRemote i j x' y hx hy hxorg horg
          (hxnode.trans hnode.symm) (hxxid.trans hxid.symm)
        obtain rfl : y = x' := Option.some.inj (hy.symm.trans hx)
        exact (rxReturns_initial (h.wf hx) horg (by rw [hxid, hst])).mp hret
      · exact absurd hxid ((lookup_eq_none hlinked).mp hl j y hy horg hnode)
    · intro hall
      cases hl : s.lookup .remoteOriginator gnode (ogsGtpSqnToXid hdr.sqn) with
      | none => exact .inr rfl
      | some i =>
        obtain ⟨x, hx, horg, hnode, hxid⟩ := lookup_eq_some hlinked hl
        have hret := (rxReturns_initial (h.wf hx) horg (by rw [hxid, hst])).mpr
          (hall i x hx horg hnode hxid)
        exact .inl ⟨i, x, rfl, hx, hret⟩
  | intermediate =>
    simp only [Option.some.injEq, exists_eq_left', reduceCtorEq, and_false, or_false]
    have hiff : ∀ i x, s.lookup .localOriginator gnode (ogsGtpSqnToXid hdr.sqn) = some i →
        s.pool i = some x → (RxReturns x hdr.type ↔ x.step = 1 ∨ x.triggeredType = hdr.type) := by
      intro i x hl hx
      obtain ⟨x', hx', horg, hnode, hxid⟩ := lookup_eq_some hlinked hl
      obtain rfl : x' = x := Option.some.inj (hx'.symm.trans hx)
      exact rxReturns_intermediate (h.wf hx) horg (by rw [hxid, hst])
    constructor
    · rintro ⟨i, x, hl, hx, hret⟩
      exact ⟨i, x, hl, hx, (hiff i x hl hx).mp hret⟩
    · rintro ⟨i, x, hl, hx, hcond⟩
      exact ⟨i, x, hl, hx, (hiff i x hl hx).mpr hcond⟩
  | final =>
    simp only [Option.some.injEq, exists_eq_left', reduceCtorEq, and_false, or_false]
    have hiff : ∀ org i x, s.lookup org gnode (ogsGtpSqnToXid hdr.sqn) = some i →
        s.pool i = some x → x.org = org ∧ (RxReturns x hdr.type ↔
          (x.org = .localOriginator ∧ x.step = 1) ∨ (x.org = .remoteOriginator ∧ x.step = 2)) := by
      intro org i x hl hx
      obtain ⟨x', hx', horg, hnode, hxid⟩ := lookup_eq_some hlinked hl
      obtain rfl : x' = x := Option.some.inj (hx'.symm.trans hx)
      exact ⟨horg, rxReturns_final (by rw [hxid, hst])⟩
    by_cases hflag : ogsGtpSqnToXid hdr.sqn &&& gtpMaxXactId ≠ 0
    · simp only [if_pos hflag]
      constructor
      · rintro ⟨i, x, hl, hx, hret⟩
        obtain ⟨horg, hret'⟩ := hiff _ i x hl hx
        have hstep := hret'.mp hret
        simp only [horg, reduceCtorEq, false_and, true_and, false_or] at hstep
        exact ⟨i, x, hl, hx, hstep⟩
      · rintro ⟨i, x, hl, hx, hstep⟩
        obtain ⟨horg, hret'⟩ := hiff _ i x hl hx
        exact ⟨i, x, hl, hx, hret'.mpr (.inr ⟨horg, hstep⟩)⟩
    · simp only [if_neg hflag]
      constructor
      · rintro ⟨i, x, hl, hx, hret⟩
        obtain ⟨horg, hret'⟩ := hiff _ i x hl hx
        have hstep := hret'.mp hret
        simp only [horg, reduceCtorEq, false_and, true_and, or_false] at hstep
        exact ⟨i, x, hl, hx, hstep⟩
      · rintro ⟨i, x, hl, hx, hstep⟩
        obtain ⟨horg, hret'⟩ := hiff _ i x hl hx
        exact ⟨i, x, hl, hx, hret'.mpr (.inl ⟨horg, hstep⟩)⟩

end

section
attribute [local instance] Ogslib.reference

/-- A Create Session Request from a new peer can be received. -/
theorem receive_returns_iff_request :
    ∃ r, ogsGtpXactReceive GtpState.init ⟨some 0, true, true⟩ 1
      ⟨GtpType.createSessionRequest, 0, #v[0, 0, 1, 0]⟩ true = .ok r :=
  (receive_returns_iff .init rfl rfl rfl 1 _).mpr fun i x hx => by cases hx

/-- A Create Session Response that answers nothing ends the process. -/
theorem receive_stray_response : XactReachable GtpState.init ∧
    ogsGtpXactReceive GtpState.init ⟨some 0, true, true⟩ 1
      ⟨GtpType.createSessionResponse, 0, #v[0, 0, 1, 0]⟩ true = .error (.assert .updateRx) :=
  ⟨.init, rfl⟩

end

end NextEpc

import NextEpc.Gtp.XactAct
import NextEpc.Gtp.XactAssoc
import NextEpc.Gtp.XactTable

/-!
# The life of a request

What becomes of a transaction that this node has opened: the packets that it hands to the
socket, the answer it accepts, and its deletion by the last commit or by a timer. Between two
calls for it any other calls may come.
-/

namespace NextEpc

open Matching

/-! ## One request -/

/-- What has become of a request: the packets sent for it, each with whether an answer had been
accepted before, and how often its transaction was deleted -/
structure RequestLife where
  sends : List (Bool × Bytes) := []
  deletions : Nat := 0

/-- An answer has been accepted. -/
def GtpState.answered (s : GtpState) (i : XactIdx) : Bool := (s.pool i).any fun x => 2 ≤ x.step

/-- A call follows. Once the transaction has been deleted its slot belongs to others. -/
def RequestLife.after (life : RequestLife) (i : XactIdx) (s : GtpState) (label : XactOp × XactOut)
    (t : GtpState) : RequestLife :=
  if life.deletions = 0 then
    { sends := life.sends ++ (packetsFor i s label t).map (Prod.mk (s.answered i))
      deletions := if (t.pool i).isNone then 1 else 0 }
  else life

/-- The answer that ends the procedure has been accepted. -/
def GtpXact.AwaitsCommit (x : GtpXact) : Prop :=
  x.step = 2 ∧ ogsGtpXactGetStage x.triggeredType x.xid = .final

theorem GtpXact.AwaitsCommit.stage {x : GtpXact} (h : x.AwaitsCommit) :
    ogsGtpXactGetStage (x.seq 1).type x.xid = .final := h.2

/-- The calls of the owner of a request: it is committed once, and again only after an answer,
and an answer that ends the procedure is not replied to. -/
def RequestOwned (i : XactIdx) (s : GtpState) : XactOp → Prop
  | .commit k _ => k = i → s.answered i = true
  | .updateTx k _ _ => k = i → ∀ x, s.pool i = some x → ¬x.AwaitsCommit
  | _ => True

/-- Transactions are associated. -/
def Associates (s : GtpState) (label : XactOp × XactOut) : Prop :=
  AssocOk s label ∧ ∃ j k, label.1 = .associate j k

/-- A call of the node, or the end of what is done for one event -/
inductive LifeStep [Ogslib] (i : XactIdx) :
    GtpState × RequestLife → Option (XactOp × XactOut) → GtpState × RequestLife → Prop
  | call {s t : GtpState} {life : RequestLife} {op : XactOp} {out : XactOut} :
      XactStep s (op, out) t → AssocOk s (op, out) →
      (life.deletions = 0 → RequestOwned i s op) →
      LifeStep i (s, life) (some (op, out)) (t, life.after i s (op, out) t)
  | rest {s : GtpState} {life : RequestLife} : LifeStep i (s, life) none (s, life)

/-- What is done for an event is done when an answer that it has accepted is committed. -/
def Committed (i : XactIdx) (v : GtpState × RequestLife) : Option (XactOp × XactOut) → Prop
  | none => v.2.deletions = 0 → ∀ x, v.1.pool i = some x → ¬x.AwaitsCommit
  | some _ => True

/-- The response timer expires at most `n` times, whether or not packets can be sent. -/
def Expires (i : XactIdx) : Nat → GtpState → Prop
  | 0, _ => False
  | n + 1, s => ∀ sendto, ∃ t, responseTimeout s i sendto = .ok t ∧
      (t.pool i = none ∨ Expires i n t)

/-- The transaction has been deleted once, or a timer is running that will delete it. -/
def Settled (i : XactIdx) (v : GtpState × RequestLife) : Prop :=
  v.2.deletions = 1 ∨ v.2.deletions = 0 ∧ ∃ x, v.1.pool i = some x ∧
    (x.tmResponse = true ∧ Expires i x.responseRcount.toNat v.1 ∨
      x.tmHolding = true ∧ ∃ t, holdingTimeout v.1 i = .ok t ∧ t.pool i = none)

/-! ## What is known of a live request -/

/-- The transaction was opened with a message of the type. -/
structure GtpXact.Opened (x : GtpXact) (type : UInt8) (request : Bytes) : Prop where
  org : x.org = .localOriginator
  seq : x.seq 0 = ⟨type, some request⟩
  stage : ogsGtpXactGetStage type x.xid = .initial
  head : request[1]? = some type

/-- The transaction waits for its answer, has the last one, or has been asked something in
between. `count` is how often its request was sent. -/
inductive RequestStage (count : Nat) (x : GtpXact) : Prop
  | waiting : x.step = 1 → x.tmResponse = true → x.tmHolding = false → x.holdingRcount = 1 →
      0 < x.responseRcount.toNat →
      count + x.responseRcount.toNat = gtpT3ResponseRetryCount.toNat + 1 → RequestStage count x
  | answered : x.AwaitsCommit → x.tmResponse = false → x.tmHolding = false →
      count ≤ gtpT3ResponseRetryCount.toNat → RequestStage count x
  | triggered : x.step = 2 ∨ x.step = 3 →
      ogsGtpXactGetStage (x.seq 1).type x.xid = .intermediate → x.tmResponse = false →
      x.tmHolding = true → x.holdingRcount = 1 →
      (∀ p, (x.seq 2).pkbuf = some p → ∃ type, p[1]? = some type ∧
        ogsGtpXactGetStage type x.xid = .final) →
      count ≤ gtpT3ResponseRetryCount.toNat → RequestStage count x

/-- A live request that has been sent `count` times -/
structure LiveRequest (type : UInt8) (request : Bytes) (count : Nat) (x : GtpXact) : Prop where
  opened : x.Opened type request
  stage : RequestStage count x

section
variable {s t : GtpState} {i : XactIdx} {x y : GtpXact} {op : XactOp} {out : XactOut}
  {type type' : UInt8} {request p : Bytes} {count n : Nat} {pkbufs : List Bytes}
  {hdesc : GtpHeader} {pkbuf : Bytes} {b : Bool} {rv : Rv}

theorem GtpXact.Opened.congr (h : x.Opened type request) (horg : y.org = x.org)
    (hxid : y.xid = x.xid) (hseq : y.seq 0 = x.seq 0) : y.Opened type request := by
  refine ⟨horg.trans h.org, hseq.trans h.seq, ?_, h.head⟩
  rw [hxid, h.stage]

/-- A message that ends a procedure is not the request. -/
theorem GtpXact.Opened.ne_final (h : x.Opened type request)
    (hp : ∃ type', p[1]? = some type' ∧ ogsGtpXactGetStage type' x.xid = .final) :
    p ≠ request := by
  rintro rfl
  obtain ⟨type', hhead, hfinal⟩ := hp
  obtain rfl : type' = type := Option.some.inj (hhead.symm.trans h.head)
  rw [h.stage] at hfinal
  cases hfinal

theorem RequestStage.count_le (h : RequestStage count x) :
    count ≤ gtpT3ResponseRetryCount.toNat := by
  cases h with
  | waiting _ _ _ _ hpos hsum => omega
  | answered _ _ _ hle => exact hle
  | triggered _ _ _ _ _ _ hle => exact hle

theorem LiveRequest.assoc (h : LiveRequest type request count x) (a : Option XactIdx) :
    LiveRequest type request count { x with assocXact := a } := by
  refine ⟨h.opened.congr rfl rfl rfl, ?_⟩
  cases h.stage with
  | waiting h₁ h₂ h₃ h₄ h₅ h₆ => exact .waiting h₁ h₂ h₃ h₄ h₅ h₆
  | answered h₁ h₂ h₃ h₄ => exact .answered h₁ h₂ h₃ h₄
  | triggered h₁ h₂ h₃ h₄ h₅ h₆ h₇ => exact .triggered h₁ h₂ h₃ h₄ h₅ h₆ h₇

/-- A message from the peer: an answer ends the sending of the request. -/
theorem LiveRequest.rx (h : LiveRequest type request count x) (hwf : XactWf x)
    (hrx : RxCase x type' b rv y pkbufs) :
    LiveRequest type request count y ∧ ∀ p ∈ pkbufs, x.step ≠ 1 ∧ p ≠ request := by
  have hle := h.stage.count_le
  cases hrx with
  | request horg | triggeredReply horg =>
    rw [h.opened.org] at horg
    cases horg
  | triggered horg hst hnew hstep =>
    refine ⟨⟨h.opened.congr rfl rfl rfl, ?_⟩, by simp⟩
    cases h.stage with
    | waiting _ _ _ hcount _ _ =>
      refine .triggered (.inl rfl) hst rfl rfl hcount (fun p hp => ?_) hle
      have hnone : (x.seq 2).pkbuf = some p := hp
      have hrecorded := (hwf.recorded 2).2.mp (by rw [hnone]; rfl)
      have hlt : 2 < x.step := hrecorded.1
      omega
    | answered hawaits =>
      have hstep' := hawaits.1
      omega
    | triggered hstep' => omega
  | response horg hst hstep =>
    refine ⟨⟨h.opened.congr rfl rfl rfl, ?_⟩, by simp⟩
    cases h.stage with
    | waiting _ _ hholding _ _ _ => exact .answered ⟨rfl, hst⟩ rfl hholding hle
    | answered hawaits =>
      have hstep' := hawaits.1
      omega
    | triggered hstep' => omega
  | discard => exact ⟨h, by simp⟩
  | @retransmit pkbuf hb hcase =>
    rcases hcase with ⟨horg, -⟩ | ⟨-, hst, htype, hstep, hp⟩
    · rw [h.opened.org] at horg
      cases horg
    · refine ⟨⟨h.opened.congr rfl rfl rfl, ?_⟩, ?_⟩
      · cases h.stage with
        | waiting hstep' => omega
        | answered hawaits =>
          rw [← htype, hawaits.stage] at hst
          cases hst
        | triggered h₁ h₂ h₃ h₄ h₅ h₆ h₇ => exact .triggered h₁ h₂ h₃ rfl h₅ h₆ h₇
      · simp only [List.mem_singleton, forall_eq]
        cases h.stage with
        | waiting hstep' => omega
        | answered hawaits =>
          rw [← htype, hawaits.stage] at hst
          cases hst
        | triggered _ _ _ _ _ hfinal _ => exact ⟨by omega, h.opened.ne_final (hfinal pkbuf hp)⟩

/-- The owner replies to what was asked in between. -/
theorem LiveRequest.tx (h : LiveRequest type request count x) (howned : ¬x.AwaitsCommit)
    (htx : TxCase x hdesc pkbuf y) : LiveRequest type request count y := by
  have hle := h.stage.count_le
  cases htx with
  | reply horg =>
    rw [h.opened.org] at horg
    cases horg
  | initial _ _ hstep =>
    cases h.stage with
    | waiting hstep' => omega
    | answered hawaits => exact absurd hawaits howned
    | triggered hstep' => omega
  | final horg hst hstep =>
    refine ⟨h.opened.congr rfl rfl rfl, ?_⟩
    cases h.stage with
    | waiting hstep' => omega
    | answered hawaits => exact absurd hawaits howned
    | triggered _ hst' hresponse hholding hcount _ _ =>
      refine .triggered (.inr rfl) hst' hresponse hholding hcount (fun p hp => ?_) hle
      obtain rfl : gtpv2cHeader hdesc x.xid pkbuf ++ pkbuf = p := Option.some.inj hp
      exact ⟨hdesc.type, rfl, hst⟩

/-- A commit that sends is for the reply, and the reply is not the request. -/
theorem LiveRequest.commit {entry : SeqEntry} (h : LiveRequest type request count x)
    (howned : 2 ≤ x.step) (hcommit : CommitCase x y) (hlast : y.last = .ok entry)
    (hp : entry.pkbuf = some p) :
    LiveRequest type request count y ∧ p ≠ request := by
  cases hcommit with
  | request _ hstep => omega
  | triggered horg | reply horg =>
    rw [h.opened.org] at horg
    cases horg
  | triggeredReply horg hstep hst =>
    refine ⟨h, ?_⟩
    rw [last_eq x 2 hstep, Except.ok.injEq] at hlast
    rw [← hlast] at hp
    cases h.stage with
    | waiting hstep' => omega
    | answered hawaits =>
      have hstep' := hawaits.1
      omega
    | triggered _ _ _ _ _ hfinal _ => exact h.opened.ne_final (hfinal p hp)

/-- The response timer expires: the request is sent once more. -/
theorem LiveRequest.response {entry : SeqEntry} (h : LiveRequest type request count x)
    (hrun : x.tmResponse = true) (hcount : x.responseRcount - 1 > 0) (hlast : x.last = .ok entry)
    (hp : entry.pkbuf = some p) :
    LiveRequest type request (count + 1) { x with responseRcount := x.responseRcount - 1 } ∧
      x.step = 1 ∧ p = request := by
  cases h.stage with
  | waiting hstep _ hholding hheld hpos hsum =>
    have hpred : (x.responseRcount - 1).toNat = x.responseRcount.toNat - 1 :=
      UInt8.toNat_sub_of_le _ _ (UInt8.le_iff_toNat_le.mpr hpos)
    have hlt : 0 < (x.responseRcount - 1).toNat := UInt8.lt_iff_toNat_lt.mp hcount
    refine ⟨⟨h.opened.congr rfl rfl rfl, .waiting hstep hrun hholding hheld hlt ?_⟩, hstep, ?_⟩
    · simp only
      omega
    · rw [last_eq x 0 hstep, Except.ok.injEq, h.opened.seq] at hlast
      rw [← hlast] at hp
      exact (Option.some.inj hp).symm
  | answered _ hresponse =>
    rw [hrun] at hresponse
    cases hresponse
  | triggered _ _ hresponse =>
    rw [hrun] at hresponse
    cases hresponse

/-- The holding timer of a live request has no second try. -/
theorem LiveRequest.not_holding (h : LiveRequest type request count x)
    (hrun : x.tmHolding = true) : x.holdingRcount = 1 := by
  cases h.stage with
  | waiting _ _ hholding =>
    rw [hrun] at hholding
    cases hholding
  | answered _ _ hholding =>
    rw [hrun] at hholding
    cases hholding
  | triggered _ _ _ _ hcount => exact hcount

/-- A call keeps what is known of a live request. It is sent only before an answer. -/
theorem LiveRequest.act (h : LiveRequest type request count x) (hwf : XactWf x)
    (hx : s.pool i = some x) (howned : RequestOwned i s op)
    (hact : XactAct i op x (some y) pkbufs) :
    LiveRequest type request (count + pkbufs.countP (· = request)) y ∧
      ∀ p ∈ pkbufs, p = request ↔ x.step = 1 := by
  cases hact with
  | idle a => exact ⟨h.assoc a, by simp⟩
  | @tx hdesc pkbuf _ hop htx =>
    subst hop
    exact ⟨h.tx (howned rfl x hx) htx, by simp⟩
  | rx hrx =>
    obtain ⟨hlive, hsent⟩ := h.rx hwf hrx
    have hzero : pkbufs.countP (· = request) = 0 := by
      rw [List.countP_eq_zero]
      intro p hp
      simpa using (hsent p hp).2
    rw [hzero]
    exact ⟨hlive, fun p hp => iff_of_false (hsent p hp).2 (hsent p hp).1⟩
  | @commit b _ entry p hop hcommit hlast hp =>
    subst hop
    have hstep : 2 ≤ x.step := by
      have hans := howned rfl
      simpa [GtpState.answered, hx] using hans
    obtain ⟨hlive, hne⟩ := h.commit hstep hcommit hlast hp
    have hzero : [p].countP (· = request) = 0 := by simpa using hne
    rw [hzero]
    refine ⟨hlive, ?_⟩
    simp only [List.mem_singleton, forall_eq]
    exact iff_of_false hne (by omega)
  | @response entry p hrun hcount hlast hp =>
    obtain ⟨hlive, hstep, rfl⟩ := h.response hrun hcount hlast hp
    have hone : [p].countP (· = p) = 1 := by simp
    rw [hone]
    exact ⟨hlive, by simp [hstep]⟩
  | holding hrun hcount =>
    rw [h.not_holding hrun] at hcount
    exact absurd hcount (by decide)

/-! ## Its timers -/

/-- A try less is left. -/
theorem toNat_pred {r : UInt8} (h : 0 < r.toNat) : (r - 1).toNat = r.toNat - 1 :=
  UInt8.toNat_sub_of_le r 1 (UInt8.le_iff_toNat_le.mpr h)

/-- A transaction can be deleted after it has been written to. -/
theorem delete_set_of_matching (hm : IsMatching s.partner) (hx : s.pool i = some x)
    (hy : y.assocXact = x.assocXact) :
    ∃ t, ogsGtpXactDelete (s.set i y) i = .ok t ∧ t.pool i = none := by
  have hset : (s.set i y).pool i = some y := by
    rw [GtpState.set_pool, if_pos rfl]
  obtain ⟨t, ht, -⟩ := delete_of_matching (set_matching hm hx hy) hset
  exact ⟨t, ht, (delete_detached ht).2⟩

/-- The response timer gives up after as many expiries as tries are left. -/
theorem expires_of_waiting (hm : IsMatching s.partner) (hx : s.pool i = some x)
    (hstep : x.step = 1) (hp : (x.seq 0).pkbuf = some p) (hn : x.responseRcount.toNat = n + 1) :
    Expires i (n + 1) s := by
  induction n generalizing s x with
  | zero =>
    intro b
    have hcount : ¬x.responseRcount - 1 > 0 := by
      rw [gt_iff_lt, UInt8.lt_iff_toNat_lt, toNat_pred (by omega), hn]
      exact Nat.lt_irrefl 0
    obtain ⟨t, ht, hfree⟩ := delete_set_of_matching (y := { x with
      tmResponse := false, responseRcount := x.responseRcount - 1 }) hm hx rfl
    refine ⟨t, ?_, .inl hfree⟩
    unfold responseTimeout
    rw [GtpState.find_eq_ok.mpr hx, Fallible.ok_bind, last_eq x 0 hstep, Fallible.ok_bind]
    simp only [if_neg hcount]
    exact ht
  | succ n ih =>
    intro b
    have hcount : x.responseRcount - 1 > 0 := by
      rw [gt_iff_lt, UInt8.lt_iff_toNat_lt, toNat_pred (by omega), hn]
      exact Nat.succ_pos n
    have hexec : responseTimeout s i b =
        if b then .ok ((s.set i { x with
          tmResponse := true, responseRcount := x.responseRcount - 1 }).sendto x.gnode [p])
        else ogsGtpXactDelete (s.set i { x with
          tmResponse := true, responseRcount := x.responseRcount - 1 }) i := by
      unfold responseTimeout
      rw [GtpState.find_eq_ok.mpr hx, Fallible.ok_bind, last_eq x 0 hstep, Fallible.ok_bind]
      simp only [if_pos hcount, hp]
      rfl
    cases b with
    | false =>
      obtain ⟨t, ht, hfree⟩ := delete_set_of_matching (y := { x with
        tmResponse := true, responseRcount := x.responseRcount - 1 }) hm hx rfl
      exact ⟨t, hexec.trans ht, .inl hfree⟩
    | true =>
      refine ⟨_, hexec, .inr ?_⟩
      refine ih ?_ (GtpState.set_pool i |>.trans (if_pos rfl)) hstep hp ?_
      · exact set_matching hm hx rfl
      · show (x.responseRcount - 1).toNat = n + 1
        rw [toNat_pred (by omega), hn, Nat.add_sub_cancel]

/-- The holding timer deletes when it expires. -/
theorem LiveRequest.holding (h : LiveRequest type request count x) (hwf : XactWf x)
    (hm : IsMatching s.partner) (hx : s.pool i = some x) (hrun : x.tmHolding = true) :
    ∃ t, holdingTimeout s i = .ok t ∧ t.pool i = none := by
  obtain ⟨k, hk⟩ := hwf.exists_last
  have hcount : ¬x.holdingRcount - 1 > 0 := by
    rw [h.not_holding hrun]
    decide
  obtain ⟨t, ht, hfree⟩ := delete_set_of_matching (y := { x with
    tmHolding := false, holdingRcount := x.holdingRcount - 1 }) hm hx rfl
  refine ⟨t, ?_, hfree⟩
  unfold holdingTimeout
  rw [GtpState.find_eq_ok.mpr hx, Fallible.ok_bind, last_eq x k hk, Fallible.ok_bind]
  simp only [if_neg hcount]
  exact ht

/-- The commit of the last answer deletes. -/
theorem commit_of_awaits (hm : IsMatching s.partner) (hx : s.pool i = some x)
    (horg : x.org = .localOriginator) (hawaits : x.AwaitsCommit) (b : Bool) :
    ∃ t, ogsGtpXactCommit s i b = .ok t ∧ t.pool i = none := by
  obtain ⟨t, ht, -⟩ := delete_of_matching hm hx
  refine ⟨t, ?_, (delete_detached ht).2⟩
  have hstage : commitStage x = .ok none := by
    unfold commitStage
    rw [last_eq x 1 hawaits.1, Fallible.ok_bind]
    simp only [horg, hawaits.stage, Fallible.ok_bind, if_pos hawaits.1,
      Fallible.assert_of (Or.inl hawaits.1 : x.step = 2 ∨ x.step = 3)]
    rfl
  unfold ogsGtpXactCommit
  rw [GtpState.find_eq_ok.mpr hx, Fallible.ok_bind, hstage, Fallible.ok_bind]
  exact ht

/-! ## Runs -/

/-- What is known of a request and of what was done for it -/
structure LifeInv [Ogslib] (i : XactIdx) (type : UInt8) (request : Bytes)
    (v : GtpState × RequestLife) : Prop where
  reachable : AssocReachable v.1
  sends : ∀ q ∈ v.2.sends, q.2 = request ↔ q.1 = false
  count_le : v.2.sends.countP (·.2 = request) ≤ gtpT3ResponseRetryCount.toNat
  live : v.2.deletions = 1 ∨ v.2.deletions = 0 ∧ ∃ x, v.1.pool i = some x ∧
    LiveRequest type request (v.2.sends.countP (·.2 = request)) x

section
variable [Ogslib] {v w : GtpState × RequestLife} {life : RequestLife}
  {label : Option (XactOp × XactOut)} {env : CreateEnv} {node : NodeId} {s₀ s₁ s₂ : GtpState}

theorem AssocReachable.xactReachable (h : AssocReachable s) : XactReachable s :=
  Lts.Reaches.of_restrict h

omit [Ogslib] in
theorem answered_of_step (hx : s.pool i = some x) (hpos : 1 ≤ x.step) :
    s.answered i = false ↔ x.step = 1 := by
  simp only [GtpState.answered, hx, Option.any_some, decide_eq_false_iff_not]
  omega

/-- The request as a call leaves it -/
theorem LifeInv.after (h : LifeInv i type request (s, life)) (hstep : XactStep s (op, out) t)
    (hok : AssocOk s (op, out)) (howned : life.deletions = 0 → RequestOwned i s op) :
    LifeInv i type request (t, life.after i s (op, out) t) := by
  have hreach : AssocReachable t := h.reachable.next hstep.1 hok hstep.2
  rcases h.live with hdeleted | ⟨hzero, x, hx, hlive⟩
  · have hafter : life.after i s (op, out) t = life := if_neg (by simp only at hdeleted; omega)
    rw [hafter]
    exact ⟨hreach, h.sends, h.count_le, .inl hdeleted⟩
  · have hwf := h.reachable.xactReachable.wf hx
    have hact := hstep.act hx
    have hafter : life.after i s (op, out) t =
        { sends := life.sends ++ (packetsFor i s (op, out) t).map (Prod.mk (s.answered i))
          deletions := if (t.pool i).isNone then 1 else 0 } := if_pos hzero
    rw [hafter]
    have hcount : ∀ l : List Bytes, (life.sends ++ l.map (Prod.mk (s.answered i))).countP
        (·.2 = request) = life.sends.countP (·.2 = request) + l.countP (· = request) := by
      intro l
      rw [List.countP_append, List.countP_map]
      rfl
    cases ht : t.pool i with
    | none =>
      rw [ht] at hact
      generalize packetsFor i s (op, out) t = pkbufs at hact
      cases hact
      exact ⟨hreach, by simpa using h.sends, by simpa using h.count_le, .inl rfl⟩
    | some y =>
      rw [ht] at hact
      obtain ⟨hnext, hsent⟩ := hlive.act hwf hx (howned hzero) hact
      refine ⟨hreach, ?_, ?_, .inr ⟨rfl, y, ht, ?_⟩⟩
      · intro q hq
        rcases List.mem_append.mp hq with hq | hq
        · exact h.sends q hq
        · obtain ⟨p, hp, rfl⟩ := List.mem_map.mp hq
          rw [answered_of_step hx hwf.step_pos]
          exact hsent p hp
      · simp only [hcount]
        exact hnext.stage.count_le
      · simp only [hcount]
        exact hnext

theorem LifeStep.inv (h : LifeInv i type request v) (hstep : LifeStep i v label w) :
    LifeInv i type request w := by
  cases hstep with
  | call hstep hok howned => exact h.after hstep hok howned
  | rest => exact h

/-- What is done for an event leaves the request settled if and only if it has committed. -/
theorem LifeInv.settled_iff (h : LifeInv i type request v) :
    Settled i v ↔ Committed i v none := by
  have hm := h.reachable.matching
  rcases h.live with hdeleted | ⟨hzero, x, hx, hlive⟩
  · refine iff_of_true (.inl hdeleted) ?_
    intro hzero
    omega
  · have hwf := h.reachable.xactReachable.wf hx
    constructor
    · rintro (hone | ⟨-, y, hy, htimer⟩) hzero' z hz
      · omega
      · obtain rfl : x = y := Option.some.inj (hx.symm.trans hy)
        obtain rfl : x = z := Option.some.inj (hx.symm.trans hz)
        intro hawaits
        cases hlive.stage with
        | waiting hstep =>
          have htwo := hawaits.1
          omega
        | answered _ hresponse hholding => simp [hresponse, hholding] at htimer
        | triggered _ hst =>
          rw [hawaits.stage] at hst
          cases hst
    · intro hcommitted
      refine .inr ⟨hzero, x, hx, ?_⟩
      cases hlive.stage with
      | waiting hstep hresponse _ _ hpos _ =>
        refine .inl ⟨hresponse, ?_⟩
        obtain ⟨n, hn⟩ := Nat.exists_eq_add_of_lt hpos
        rw [Nat.zero_add] at hn
        rw [hn]
        exact expires_of_waiting hm hx hstep (by rw [hlive.opened.seq]) hn
      | answered hawaits => exact absurd hawaits (hcommitted hzero x hx)
      | triggered _ _ _ hholding =>
        exact .inr ⟨hholding, hlive.holding hwf hm hx hholding⟩

/-- The transaction of a new request -/
theorem localCreate_pool_request
    (hstep : XactStep s (.localCreate env node hdesc pkbuf, .created i) t) :
    ∃ xid, ogsGtpXactGetStage hdesc.type xid = .initial ∧
      t.pool i = some (.requested xid node hdesc pkbuf) := by
  have hex := hstep.2
  simp only [XactOp.exec, ogsGtpXactLocalCreate, Fallible.bind_eq_ok, Fallible.assertSome_eq_ok,
    Fallible.pure_eq_ok, Except.ok.injEq, Prod.mk.injEq, XactOut.created.injEq] at hex
  obtain ⟨⟨u, j⟩, ⟨k, -, -, -, -, -, x, hx, rfl, rfl⟩, rfl, rfl⟩ := hex
  refine ⟨Ogslib.nextId s.gXactId gtpMinXactId gtpMaxXactId, ?_⟩
  rw [GtpState.insert_pool, if_pos rfl]
  cases updateTx_eq_ok.mp hx with
  | initial _ hst _ => exact ⟨hst, rfl⟩
  | reply horg => cases horg
  | final _ _ htwo => exact absurd htwo (by simp [GtpXact.fresh])

/-- It has only been associated before it is committed. -/
theorem associated_of_trace {tr : List ((XactOp × XactOut) × GtpState)}
    (htr : Lts.Trace (Lts.Restrict Associates XactStep) s tr) (hs : AssocReachable s)
    (hx : s.pool i = some x) : AssocReachable (Lts.finalState s tr) ∧
      ∃ a, (Lts.finalState s tr).pool i = some { x with assocXact := a } := by
  induction htr generalizing x with
  | nil => exact ⟨hs, x.assocXact, hx⟩
  | cons hstep _ ih =>
    obtain ⟨⟨hok, j, k, hop⟩, hen, hex⟩ := hstep
    have hreach := hs.next hen hok hex
    rw [hop] at hex
    simp only [XactOp.exec, Fallible.bind_eq_ok, Fallible.pure_eq_ok, Except.ok.injEq,
      Prod.mk.injEq] at hex
    obtain ⟨t, ht, rfl, -⟩ := hex
    obtain ⟨a, ha⟩ := associate_kept hx ht
    obtain ⟨hfinal, a', ha'⟩ := ih hreach ha
    exact ⟨hfinal, a', ha'⟩

/-- A request with its partner, if it has been given one -/
def GtpXact.requestedWith (a : Option XactIdx) (xid : UInt32) (node : NodeId) (hdesc : GtpHeader)
    (pkbuf : Bytes) : GtpXact :=
  { GtpXact.requested xid node hdesc pkbuf with assocXact := a }

omit [Ogslib] in
/-- Its commit sends it and starts the response timer. -/
theorem commit_requested {xid : UInt32} {a : Option XactIdx}
    (hx : s.pool i = some (.requestedWith a xid node hdesc pkbuf))
    (hst : ogsGtpXactGetStage hdesc.type xid = .initial)
    (h : ogsGtpXactCommit s i b = .ok t) :
    t = (s.set i { GtpXact.requestedWith a xid node hdesc pkbuf with
      tmResponse := true }).sendto node [gtpv2cHeader hdesc xid pkbuf ++ pkbuf] := by
  have hstage : commitStage (.requestedWith a xid node hdesc pkbuf) =
      .ok (some { GtpXact.requestedWith a xid node hdesc pkbuf with tmResponse := true }) := by
    unfold commitStage
    rw [last_eq _ 0 rfl, Fallible.ok_bind]
    simp only [GtpXact.requestedWith, GtpXact.requested, GtpXact.fresh, Function.update_self, hst]
    rfl
  unfold ogsGtpXactCommit at h
  rw [GtpState.find_eq_ok.mpr hx, Fallible.ok_bind, hstage, Fallible.ok_bind] at h
  simp only [last_eq (k := 0)
      { GtpXact.requestedWith a xid node hdesc pkbuf with tmResponse := true } rfl,
    Fallible.ok_bind, Fallible.bind_eq_ok, Fallible.assertSome_eq_ok, Fallible.pure_eq_ok,
    Except.ok.injEq] at h
  obtain ⟨p, hp, -, -, rfl⟩ := h
  obtain rfl : gtpv2cHeader hdesc xid pkbuf ++ pkbuf = p := Option.some.inj hp
  rfl

/-- A request that was created and committed has been sent once. -/
theorem lifeInv_committed {assoc : List ((XactOp × XactOut) × GtpState)} (hs : AssocReachable s)
    (hcreate : XactStep s (.localCreate env node hdesc pkbuf, .created i) s₀)
    (hassoc : Lts.Trace (Lts.Restrict Associates XactStep) s₀ assoc)
    (hs₁ : Lts.finalState s₀ assoc = s₁) (hcommit : XactStep s₁ (.commit i b, .done) s₂) :
    ∃ x request, s₀.pool i = some x ∧ x.seq 0 = ⟨hdesc.type, some request⟩ ∧
      LifeInv i hdesc.type request
        (s₂, ({} : RequestLife).after i s₁ (.commit i b, .done) s₂) := by
  obtain ⟨xid, hst, hx₀⟩ := localCreate_pool_request hcreate
  refine ⟨_, gtpv2cHeader hdesc xid pkbuf ++ pkbuf, hx₀, rfl, ?_⟩
  obtain ⟨hreach₁, a, hx⟩ :=
    associated_of_trace hassoc (hs.next hcreate.1 trivial hcreate.2) hx₀
  rw [hs₁] at hreach₁ hx
  have hreach : AssocReachable s₂ := hreach₁.next hcommit.1 trivial hcommit.2
  have hex := hcommit.2
  simp only [XactOp.exec, Fallible.bind_eq_ok, Fallible.pure_eq_ok, Except.ok.injEq,
    Prod.mk.injEq, and_true] at hex
  obtain ⟨t, ht, rfl⟩ := hex
  obtain rfl := commit_requested hx hst ht
  have hlife : ({} : RequestLife).after i s₁ (.commit i b, .done)
      ((s₁.set i { GtpXact.requestedWith a xid node hdesc pkbuf with
        tmResponse := true }).sendto node [gtpv2cHeader hdesc xid pkbuf ++ pkbuf]) =
      { sends := [(false, gtpv2cHeader hdesc xid pkbuf ++ pkbuf)], deletions := 0 } := by
    have hanswered : s₁.answered i = false := by
      simp [GtpState.answered, hx, GtpXact.requested]
    have hsender : xactSender (XactOp.commit i b, XactOut.done) = some i := rfl
    simp only [RequestLife.after, packetsFor_self hsender, drop_sent, hanswered,
      GtpState.sendto_pool, GtpState.set_pool, if_true]
    rfl
  rw [hlife]
  have hone : [(false, gtpv2cHeader hdesc xid pkbuf ++ pkbuf)].countP
      (·.2 = gtpv2cHeader hdesc xid pkbuf ++ pkbuf) = 1 := by simp
  have hpool := (GtpState.set_pool (s := s₁) (i := i)
    (x := { GtpXact.requestedWith a xid node hdesc pkbuf with tmResponse := true }) i).trans
    (if_pos rfl)
  refine ⟨hreach, by simp, by rw [hone]; decide, .inr ⟨rfl, _, hpool, ⟨rfl, rfl, hst, rfl⟩, ?_⟩⟩
  have hthree : 0 < gtpT3ResponseRetryCount.toNat := by decide
  rw [hone]
  exact .waiting rfl rfl rfl rfl hthree (Nat.add_comm 1 _)

/-- What a live request can rely on: it is in the list of its peer, a call that frees its slot takes
it out of the list, and the commit of its last answer frees the slot. -/
theorem LifeInv.deletable (h : LifeInv i type request (t, life)) (hzero : life.deletions = 0) :
    ∃ y, t.pool i = some y ∧ y.org = .localOriginator ∧ i ∈ t.xactList y.org y.gnode ∧
      (∀ label u, XactStep t label u → u.pool i = none → ∀ org n, i ∉ u.xactList org n) ∧
      (y.AwaitsCommit → ∀ b, ∃ u, ogsGtpXactCommit t i b = .ok u ∧ u.pool i = none) := by
  have hreach := h.reachable.xactReachable
  rcases h.live with hone | ⟨-, y, hy, hlive⟩
  · simp only at hone
    omega
  · have horg := hlive.opened.org
    refine ⟨y, hy, horg, (hreach.linked.mem_iff _ _ i).mpr ⟨y, hy, rfl, rfl⟩, ?_,
      commit_of_awaits h.reachable.matching hy horg⟩
    intro label u hstep hfree org n hmem
    obtain ⟨z, hz, -⟩ := ((hreach.next hstep.1 hstep.2).linked.mem_iff org n i).mp hmem
    rw [hfree] at hz
    cases hz

/-- A request in a run of its node, which is associated with the transactions it is made for and
then committed: it is sent at most as often as there are tries, all packets
before an answer is accepted are the same and none after that is the request, and it is deleted at
most once, when its slot is freed and it leaves the list of its peer. It is settled whenever the
node is done with an event if and only if each answer that ends the procedure is committed with the
event that brought it. -/
theorem gtpRequest_life {assoc : List ((XactOp × XactOut) × GtpState)} (hs : AssocReachable s)
    (hcreate : XactStep s (.localCreate env node hdesc pkbuf, .created i) s₀)
    (hassoc : Lts.Trace (Lts.Restrict Associates XactStep) s₀ assoc)
    (hs₁ : Lts.finalState s₀ assoc = s₁) (hcommit : XactStep s₁ (.commit i b, .done) s₂)
    {tr : List (Option (XactOp × XactOut) × GtpState × RequestLife)}
    (htr : Lts.Trace (LifeStep i)
      (s₂, ({} : RequestLife).after i s₁ (.commit i b, .done) s₂) tr) :
    (∃ x request, s₀.pool i = some x ∧ (x.seq 0).pkbuf = some request ∧
      ∀ v ∈ (s₂, ({} : RequestLife).after i s₁ (.commit i b, .done) s₂) :: tr.map Prod.snd,
        v.2.sends.countP (·.2 = request) ≤ gtpT3ResponseRetryCount.toNat ∧
        (∀ q ∈ v.2.sends, q.2 = request ↔ q.1 = false) ∧
        v.2.deletions ≤ 1 ∧
        (v.2.deletions = 0 → ∃ y, v.1.pool i = some y ∧ y.org = .localOriginator ∧
          i ∈ v.1.xactList y.org y.gnode ∧
          (∀ label u, XactStep v.1 label u → u.pool i = none → ∀ org n, i ∉ u.xactList org n) ∧
          (y.AwaitsCommit → ∀ b', ∃ u, ogsGtpXactCommit v.1 i b' = .ok u ∧ u.pool i = none))) ∧
    ((∀ p ∈ tr, p.1 = none → Settled i p.2) ↔
      Lts.Trace (Lts.Restrict (Committed i) (LifeStep i))
        (s₂, ({} : RequestLife).after i s₁ (.commit i b, .done) s₂) tr) := by
  obtain ⟨x, request, hx, hseq, hinv⟩ := lifeInv_committed hs hcreate hassoc hs₁ hcommit
  constructor
  · refine ⟨x, request, hx, by rw [hseq], fun v hv => ?_⟩
    have hv : LifeInv i hdesc.type request v := by
      rcases List.mem_cons.mp hv with rfl | hv
      · exact hinv
      · obtain ⟨p, hp, rfl⟩ := List.mem_map.mp hv
        exact htr.invariant (fun _ _ _ h hstep => hstep.inv h) hinv p hp
    refine ⟨hv.count_le, hv.sends, ?_, hv.deletable⟩
    rcases hv.live with hone | ⟨hzero, -⟩ <;> omega
  · refine htr.labels_iff (J := LifeInv i hdesc.type request)
      (P := fun p => p.1 = none → Settled i p.2) (fun _ _ _ h hstep => hstep.inv h) ?_ hinv
    intro v label w hv hstep
    cases hstep with
    | call => exact iff_of_true (fun h => by cases h) trivial
    | rest => exact ⟨fun h => hv.settled_iff.mp (h rfl), fun h _ => hv.settled_iff.mpr h⟩

end

end

section
attribute [local instance] Ogslib.reference

/-- A request to create a bearer, as the SGW sends it to the MME -/
def createBearerRequest : XactOp :=
  .localCreate ⟨some 0, true, true⟩ 1 ⟨GtpType.createBearerRequest, 0, .replicate 4 0⟩ []

/-- The request of the PGW to create a bearer, for which the SGW opens a transaction with the MME -/
def pgwCreateBearerRequest : XactOp :=
  .receive ⟨some 1, true, true⟩ 2 ⟨GtpType.createBearerRequest, 0,
    .ofFn fun i => if i.val = 2 then 1 else 0⟩ true

/-- A request that has been associated and waits for its answer is settled. -/
theorem gtpRequest_life_waiting : ∃ s s₀ s₁ s₂,
    XactStep s (createBearerRequest, .created 0) s₀ ∧
    XactStep s₀ (.associate 1 0, .done) s₁ ∧ XactStep s₁ (.commit 0 true, .done) s₂ ∧
    Settled 0 (s₂, ({} : RequestLife).after 0 s₁ (.commit 0 true, .done) s₂) := by
  obtain ⟨s, s₀, s₁, s₂, x, hreceive, hcreate, hassoc, hcommit, hx, hstep⟩ : ∃ s s₀ s₁ s₂ x,
      XactStep GtpState.init (pgwCreateBearerRequest, .received .ok 1) s ∧
      XactStep s (createBearerRequest, .created 0) s₀ ∧
      XactStep s₀ (.associate 1 0, .done) s₁ ∧
      XactStep s₁ (.commit 0 true, .done) s₂ ∧ s₂.pool 0 = some x ∧ x.step = 1 :=
    ⟨_, _, _, _, _, ⟨fun _ hi => (by cases hi; rfl), rfl⟩, ⟨fun _ hi => (by cases hi; rfl), rfl⟩,
      ⟨trivial, rfl⟩, ⟨trivial, rfl⟩, rfl, rfl⟩
  have hreach : AssocReachable s := AssocReachable.init.next hreceive.1 trivial hreceive.2
  have hok : AssocOk s₀ (.associate 1 0, .done) := show (1 : XactIdx) ≠ 0 by decide
  have hlife := gtpRequest_life hreach hcreate
    (.cons ⟨⟨hok, 1, 0, rfl⟩, hassoc⟩ (.nil _)) rfl hcommit (.cons .rest (.nil _))
  refine ⟨s, s₀, s₁, s₂, hcreate, hassoc, hcommit, hlife.2.mpr (.cons ⟨?_, .rest⟩ (.nil _)) _
    List.mem_cons_self rfl⟩
  intro _ y hy hawaits
  obtain rfl : x = y := Option.some.inj (hx.symm.trans hy)
  have htwo := hawaits.1
  omega

/-- The answer to it -/
def createBearerResponse : XactOp :=
  .receive ⟨none, true, true⟩ 1 ⟨GtpType.createBearerResponse, 0,
    .ofFn fun i => if i.val = 2 then 1 else 0⟩ true

/-- The answer is accepted and the handler does not commit: nothing will delete the
transaction. -/
theorem gtpRequest_answer_kept : ∃ s₁ s₂ v,
    XactStep GtpState.init (createBearerRequest, .created 0) s₁ ∧
    XactStep s₁ (.commit 0 true, .done) s₂ ∧
    Lts.Trace (LifeStep 0) (s₂, ({} : RequestLife).after 0 s₁ (.commit 0 true, .done) s₂)
      [(some (createBearerResponse, .received .ok 0), v), (none, v)] ∧ ¬Settled 0 v := by
  obtain ⟨s₁, s₂, t, x, hcreate, hcommit, hreceive, hx, hresponse, hholding, hlife⟩ :
      ∃ s₁ s₂ t x, XactStep GtpState.init (createBearerRequest, .created 0) s₁ ∧
        XactStep s₁ (.commit 0 true, .done) s₂ ∧
        XactStep s₂ (createBearerResponse, .received .ok 0) t ∧ t.pool 0 = some x ∧
        x.tmResponse = false ∧ x.tmHolding = false ∧
        (({} : RequestLife).after 0 s₁ (.commit 0 true, .done) s₂).deletions = 0 :=
    ⟨_, _, _, _, ⟨fun _ _ => rfl, rfl⟩, ⟨trivial, rfl⟩, ⟨fun _ hi => (by cases hi), rfl⟩, rfl, rfl,
      rfl, rfl⟩
  refine ⟨s₁, s₂, _, hcreate, hcommit,
    .cons (.call hreceive trivial fun _ => trivial) (.cons .rest (.nil _)), ?_⟩
  rintro (hone | ⟨-, y, hy, htimer⟩)
  · rw [RequestLife.after, if_pos hlife, hx] at hone
    cases hone
  · obtain rfl : x = y := Option.some.inj (hx.symm.trans hy)
    simp [hresponse, hholding] at htimer

end

end NextEpc

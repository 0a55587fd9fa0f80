import NextEpc.Lib.Trace
import NextEpc.Gtp.Xact

/-!
# Runs of the transaction layer

The calls the rest of a node makes into the transaction layer, in any order, with any
results of the library calls. What one call can do to one transaction is said once, by
`XactChange` and `XactBorn`; the invariants are then proved per transaction.
-/

namespace NextEpc

/-- The entry points of the transaction layer and the two timer callbacks. -/
inductive XactOp
  | localCreate (env : CreateEnv) (gnode : NodeId) (hdesc : GtpHeader) (pkbuf : Bytes)
  | receive (env : CreateEnv) (gnode : NodeId) (h : GtpHeader) (sendto : Bool)
  | updateTx (i : XactIdx) (hdesc : GtpHeader) (pkbuf : Bytes)
  | commit (i : XactIdx) (sendto : Bool)
  | responseTimeout (i : XactIdx) (sendto : Bool)
  | holdingTimeout (i : XactIdx)
  | associate (i j : XactIdx)
  | deassociate (i j : XactIdx)
  | deleteAll (gnode : NodeId)
  deriving DecidableEq

inductive XactOut
  | created (i : XactIdx)
  | received (rv : Rv) (i : XactIdx)
  | done
  deriving DecidableEq

def XactOp.exec [Ogslib] (s : GtpState) : XactOp → XactM (GtpState × XactOut)
  | localCreate env gnode hdesc pkbuf => do
    let (s, i) ← ogsGtpXactLocalCreate s env gnode hdesc pkbuf
    return (s, .created i)
  | receive env gnode h sendto => do
    let (s, rv, i) ← ogsGtpXactReceive s env gnode h sendto
    return (s, .received rv i)
  | updateTx i hdesc pkbuf => do
    let xact ← ogsGtpXactUpdateTx (← s.find i) hdesc pkbuf
    return (s.set i xact, .done)
  | commit i sendto => do return (← ogsGtpXactCommit s i sendto, .done)
  | responseTimeout i sendto => do return (← NextEpc.responseTimeout s i sendto, .done)
  | holdingTimeout i => do return (← NextEpc.holdingTimeout s i, .done)
  | associate i j => do return (← ogsGtpXactAssociate s i j, .done)
  | deassociate i j => do return (← ogsGtpXactDeassociate s i j, .done)
  | deleteAll gnode => do return (← ogsGtpXactDeleteAll s gnode, .done)

/-- `ogs_pool_alloc` returns only free slots, and only running timers fire. -/
def XactOp.Enabled (s : GtpState) : XactOp → Prop
  | localCreate env _ _ _ => ∀ i, env.slot = some i → s.pool i = none
  | receive env _ _ _ => ∀ i, env.slot = some i → s.pool i = none
  | responseTimeout i _ => ∃ xact, s.pool i = some xact ∧ xact.tmResponse = true
  | holdingTimeout i => ∃ xact, s.pool i = some xact ∧ xact.tmHolding = true
  | _ => True

/-- The slot that a call which may create a transaction takes from the pool. -/
def XactOp.slot : XactOp → Option XactIdx
  | localCreate env _ _ _ => env.slot
  | receive env _ _ _ => env.slot
  | _ => none

/-- One call that returns. -/
def XactStep [Ogslib] (s : GtpState) (label : XactOp × XactOut) (t : GtpState) : Prop :=
  label.1.Enabled s ∧ label.1.exec s = .ok (t, label.2)

/-- The states a node can get into by calls that return. -/
def XactReachable [Ogslib] (s : GtpState) : Prop := Lts.Reaches XactStep GtpState.init s

/-- The call `op` in the state that a step has led to. -/
theorem XactStep.next [Ogslib] {s t u : GtpState} {label : XactOp × XactOut} {out : XactOut}
    (_ : XactStep s label t) (op : XactOp) (hen : op.Enabled t)
    (hex : op.exec t = .ok (u, out)) : XactStep t (op, out) u :=
  ⟨hen, hex⟩

theorem XactReachable.init [Ogslib] : XactReachable GtpState.init :=
  Relation.ReflTransGen.refl

theorem XactReachable.next [Ogslib] {s t : GtpState} {op : XactOp} {out : XactOut}
    (h : XactReachable s) (hen : op.Enabled s) (hex : op.exec s = .ok (t, out)) :
    XactReachable t :=
  Relation.ReflTransGen.tail h ⟨(op, out), hen, hex⟩

/-! ## What a transaction does -/

/-- `ogs_gtp_xact_update_tx` returns: the step is the next one for its sender. -/
inductive TxCase (x : GtpXact) (hdesc : GtpHeader) (pkbuf : Bytes) : GtpXact → Prop
  | initial : x.org = .localOriginator → ogsGtpXactGetStage hdesc.type x.xid = .initial →
      x.step = 0 → TxCase x hdesc pkbuf { x with
        seq := Function.update x.seq 0
          ⟨hdesc.type, some (gtpv2cHeader hdesc x.xid pkbuf ++ pkbuf)⟩,
        step := 1 }
  | reply : x.org = .remoteOriginator →
      ogsGtpXactGetStage hdesc.type x.xid = .intermediate ∨
        ogsGtpXactGetStage hdesc.type x.xid = .final →
      x.step = 1 → TxCase x hdesc pkbuf { x with
        seq := Function.update x.seq 1
          ⟨hdesc.type, some (gtpv2cHeader hdesc x.xid pkbuf ++ pkbuf)⟩,
        step := 2 }
  | final : x.org = .localOriginator → ogsGtpXactGetStage hdesc.type x.xid = .final →
      x.step = 2 → TxCase x hdesc pkbuf { x with
        seq := Function.update x.seq 2
          ⟨hdesc.type, some (gtpv2cHeader hdesc x.xid pkbuf ++ pkbuf)⟩,
        step := 3 }

/-- The type of a new message is saved at step `k`. -/
def GtpXact.accepted (x : GtpXact) (type : UInt8) (k : Fin 3) : GtpXact :=
  { x with
    tmResponse := false
    seq := Function.update x.seq k { x.seq k with type := type }
    step := k + 1 }

/-- `ogs_gtp_xact_update_rx` returns. -/
inductive RxCase (x : GtpXact) (type : UInt8) (sendto : Bool) :
    Rv → GtpXact → List Bytes → Prop
  | request : x.org = .remoteOriginator → ogsGtpXactGetStage type x.xid = .initial →
      (x.seq 0).type ≠ type → x.step = 0 →
      RxCase x type sendto .ok ({ x with tmHolding := true }.accepted type 0) []
  | triggered : x.org = .localOriginator → ogsGtpXactGetStage type x.xid = .intermediate →
      (x.seq 1).type ≠ type → x.step = 1 →
      RxCase x type sendto .ok ({ x with tmHolding := true }.accepted type 1) []
  | response : x.org = .localOriginator → ogsGtpXactGetStage type x.xid = .final →
      x.step = 1 → RxCase x type sendto .ok (x.accepted type 1) []
  | triggeredReply : x.org = .remoteOriginator → ogsGtpXactGetStage type x.xid = .final →
      x.step = 2 → RxCase x type sendto .ok (x.accepted type 2) []
  | discard : (x.org = .remoteOriginator ∧ ogsGtpXactGetStage type x.xid = .initial ∧
        (x.seq 0).type = type ∧ (x.step = 1 ∨ x.step = 2) ∧ (x.seq 1).pkbuf = none) ∨
      (x.org = .localOriginator ∧ ogsGtpXactGetStage type x.xid = .intermediate ∧
        (x.seq 1).type = type ∧ (x.step = 2 ∨ x.step = 3) ∧ (x.seq 2).pkbuf = none) →
      RxCase x type sendto .retry x []
  | retransmit {pkbuf : Bytes} : sendto = true →
      (x.org = .remoteOriginator ∧ ogsGtpXactGetStage type x.xid = .initial ∧
        (x.seq 0).type = type ∧ (x.step = 1 ∨ x.step = 2) ∧ (x.seq 1).pkbuf = some pkbuf) ∨
      (x.org = .localOriginator ∧ ogsGtpXactGetStage type x.xid = .intermediate ∧
        (x.seq 1).type = type ∧ (x.step = 2 ∨ x.step = 3) ∧ (x.seq 2).pkbuf = some pkbuf) →
      RxCase x type sendto .retry { x with tmHolding := true } [pkbuf]

/-- `ogs_gtp_xact_commit` goes on to send the last packet. -/
inductive CommitCase (x : GtpXact) : GtpXact → Prop
  | request : x.org = .localOriginator → x.step = 1 →
      ogsGtpXactGetStage (x.seq 0).type x.xid = .initial → CommitCase x { x with tmResponse := true }
  | triggered : x.org = .remoteOriginator → x.step = 2 →
      ogsGtpXactGetStage (x.seq 1).type x.xid = .intermediate →
      CommitCase x { x with tmResponse := true }
  | reply : x.org = .remoteOriginator → x.step = 2 →
      ogsGtpXactGetStage (x.seq 1).type x.xid = .final → CommitCase x x
  | triggeredReply : x.org = .localOriginator → x.step = 3 →
      ogsGtpXactGetStage (x.seq 2).type x.xid = .final → CommitCase x x

section
variable {x y : GtpXact} {hdesc : GtpHeader} {pkbuf : Bytes} {type : UInt8} {sendto : Bool}
  {rv : Rv} {pkbufs : List Bytes}

theorem record_eq (x : GtpXact) (k : Fin 3) (h : x.step = k) (w : SeqEntry → SeqEntry) :
    x.record w =
      .ok { x with seq := Function.update x.seq k (w (x.seq k)), step := k + 1 } := by
  have hlt : x.step < 3 := by omega
  obtain rfl : k = ⟨x.step, hlt⟩ := Fin.ext h.symm
  simp [GtpXact.record, hlt]

theorem updateTx_eq_ok : ogsGtpXactUpdateTx x hdesc pkbuf = .ok y ↔ TxCase x hdesc pkbuf y := by
  constructor
  · intro h
    unfold ogsGtpXactUpdateTx at h
    split at h
    case h_1 horg hst =>
      simp only [Fallible.bind_eq_ok, Fallible.assert_eq_ok] at h
      obtain ⟨-, hstep, h⟩ := h
      rw [record_eq x 0 hstep, Except.ok.injEq] at h
      subst h
      exact .initial horg hst hstep
    case h_2 horg hst =>
      simp only [Fallible.bind_eq_ok, Fallible.assert_eq_ok] at h
      obtain ⟨-, hstep, h⟩ := h
      rw [record_eq x 2 hstep, Except.ok.injEq] at h
      subst h
      exact .final horg hst hstep
    case h_3 horg hst =>
      simp only [Fallible.bind_eq_ok, Fallible.assert_eq_ok] at h
      obtain ⟨-, hstep, h⟩ := h
      rw [record_eq x 1 hstep, Except.ok.injEq] at h
      subst h
      exact .reply horg (.inl hst) hstep
    case h_4 horg hst =>
      simp only [Fallible.bind_eq_ok, Fallible.assert_eq_ok] at h
      obtain ⟨-, hstep, h⟩ := h
      rw [record_eq x 1 hstep, Except.ok.injEq] at h
      subst h
      exact .reply horg (.inr hst) hstep
    case h_5 => cases h
  · intro h
    unfold ogsGtpXactUpdateTx
    cases h with
    | initial horg hst hstep =>
      simp only [horg, hst, Fallible.assert_of hstep, Fallible.ok_bind, record_eq x 0 hstep]
      rfl
    | reply horg hst hstep =>
      rcases hst with hst | hst <;>
        (simp only [horg, hst, Fallible.assert_of hstep, Fallible.ok_bind, record_eq x 1 hstep]
         rfl)
    | final horg hst hstep =>
      simp only [horg, hst, Fallible.assert_of hstep, Fallible.ok_bind, record_eq x 2 hstep]
      rfl

theorem accept_eq_ok (x : GtpXact) (type : UInt8) (k : Fin 3) (h : x.step = k) :
    x.accept type = .ok (.ok, x.accepted type k, []) := by
  unfold GtpXact.accept
  rw [record_eq { x with tmResponse := false } k h]
  rfl

theorem duplicated_eq_ok {p : Option Bytes} :
    x.duplicated p sendto = .ok (rv, y, pkbufs) ↔ rv = .retry ∧
      ((p = none ∧ y = x ∧ pkbufs = []) ∨
        ∃ pkbuf, p = some pkbuf ∧ sendto = true ∧ y = { x with tmHolding := true } ∧
          pkbufs = [pkbuf]) := by
  unfold GtpXact.duplicated
  cases p with
  | none => simp [eq_comm]
  | some pkbuf =>
    simp only [Fallible.bind_eq_ok, Fallible.assert_eq_ok, Fallible.pure_eq_ok,
      Except.ok.injEq, Prod.mk.injEq]
    constructor
    · rintro ⟨-, hs, rfl, rfl, rfl⟩
      exact ⟨rfl, .inr ⟨pkbuf, rfl, hs, rfl, rfl⟩⟩
    · rintro ⟨rfl, ⟨h, -⟩ | ⟨pkbuf', h, hs, rfl, rfl⟩⟩
      · cases h
      · cases h
        exact ⟨(), hs, rfl, rfl, rfl⟩

theorem updateRx_eq_ok :
    ogsGtpXactUpdateRx x type sendto = .ok (rv, y, pkbufs) ↔
      RxCase x type sendto rv y pkbufs := by
  constructor
  · intro h
    unfold ogsGtpXactUpdateRx at h
    split at h
    case h_1 horg hst =>
      split at h
      case isTrue hdup =>
        simp only [Fallible.bind_eq_ok, Fallible.assert_eq_ok, duplicated_eq_ok] at h
        obtain ⟨-, hstep, rfl, ⟨hp, rfl, rfl⟩ | ⟨pkbuf, hp, hs, rfl, rfl⟩⟩ := h
        · exact .discard (.inr ⟨horg, hst, hdup, hstep, hp⟩)
        · exact .retransmit hs (.inr ⟨horg, hst, hdup, hstep, hp⟩)
      case isFalse hnew =>
        simp only [Fallible.bind_eq_ok, Fallible.assert_eq_ok] at h
        obtain ⟨-, hstep, h⟩ := h
        rw [accept_eq_ok { x with tmHolding := true } type 1 hstep] at h
        cases h
        exact .triggered horg hst hnew hstep
    case h_2 horg hst =>
      simp only [Fallible.bind_eq_ok, Fallible.assert_eq_ok] at h
      obtain ⟨-, hstep, h⟩ := h
      rw [accept_eq_ok x type 1 hstep] at h
      cases h
      exact .response horg hst hstep
    case h_3 horg hst =>
      split at h
      case isTrue hdup =>
        simp only [Fallible.bind_eq_ok, Fallible.assert_eq_ok, duplicated_eq_ok] at h
        obtain ⟨-, hstep, rfl, ⟨hp, rfl, rfl⟩ | ⟨pkbuf, hp, hs, rfl, rfl⟩⟩ := h
        · exact .discard (.inl ⟨horg, hst, hdup, hstep, hp⟩)
        · exact .retransmit hs (.inl ⟨horg, hst, hdup, hstep, hp⟩)
      case isFalse hnew =>
        simp only [Fallible.bind_eq_ok, Fallible.assert_eq_ok] at h
        obtain ⟨-, hstep, h⟩ := h
        rw [accept_eq_ok { x with tmHolding := true } type 0 hstep] at h
        cases h
        exact .request horg hst hnew hstep
    case h_4 horg hst =>
      simp only [Fallible.bind_eq_ok, Fallible.assert_eq_ok] at h
      obtain ⟨-, hstep, h⟩ := h
      rw [accept_eq_ok x type 2 hstep] at h
      cases h
      exact .triggeredReply horg hst hstep
    case h_5 => cases h
  · intro h
    unfold ogsGtpXactUpdateRx
    cases h with
    | request horg hst hnew hstep =>
      have ha := accept_eq_ok { x with tmHolding := true } type 0 hstep
      simp only [horg] at ha
      simp only [horg, hst, if_neg hnew, Fallible.assert_of hstep, Fallible.ok_bind, ha]
    | triggered horg hst hnew hstep =>
      have ha := accept_eq_ok { x with tmHolding := true } type 1 hstep
      simp only [horg] at ha
      simp only [horg, hst, if_neg hnew, Fallible.assert_of hstep, Fallible.ok_bind, ha]
    | response horg hst hstep =>
      simp only [horg, hst, Fallible.assert_of hstep, Fallible.ok_bind]
      exact accept_eq_ok x type 1 hstep
    | triggeredReply horg hst hstep =>
      simp only [horg, hst, Fallible.assert_of hstep, Fallible.ok_bind]
      exact accept_eq_ok x type 2 hstep
    | discard hc =>
      rcases hc with ⟨horg, hst, hdup, hstep, hp⟩ | ⟨horg, hst, hdup, hstep, hp⟩
      · simp only [horg, hst, if_pos hdup, Fallible.assert_of hstep, Fallible.ok_bind, hp]
        rfl
      · simp only [horg, hst, if_pos hdup, Fallible.assert_of hstep, Fallible.ok_bind, hp]
        rfl
    | retransmit hs hc =>
      rcases hc with ⟨horg, hst, hdup, hstep, hp⟩ | ⟨horg, hst, hdup, hstep, hp⟩
      · simp only [horg, hst, if_pos hdup, Fallible.assert_of hstep, Fallible.ok_bind, hp]
        exact duplicated_eq_ok.mpr ⟨rfl, .inr ⟨_, rfl, hs, by simp only [horg], rfl⟩⟩
      · simp only [horg, hst, if_pos hdup, Fallible.assert_of hstep, Fallible.ok_bind, hp]
        exact duplicated_eq_ok.mpr ⟨rfl, .inr ⟨_, rfl, hs, by simp only [horg], rfl⟩⟩

theorem last_eq (x : GtpXact) (k : Fin 3) (h : x.step = k + 1) : x.last = .ok (x.seq k) := by
  simp [GtpXact.last, h]

theorem last_eq_ok {e : SeqEntry} (h : x.last = .ok e) :
    ∃ k : Fin 3, x.step = k + 1 ∧ e = x.seq k := by
  unfold GtpXact.last at h
  split at h
  case h_1 => cases h
  case h_2 k hk =>
    split at h
    case isTrue hlt => exact ⟨⟨k, hlt⟩, hk, (Except.ok.inj h).symm⟩
    case isFalse => cases h

theorem commitStage_eq_some (h : commitStage x = .ok (some y)) : CommitCase x y := by
  unfold commitStage at h
  rw [Fallible.bind_eq_ok] at h
  obtain ⟨e, he, h⟩ := h
  obtain ⟨k, hstep, rfl⟩ := last_eq_ok he
  split at h
  case h_1 horg hst =>
    simp only [Fallible.bind_eq_ok, Fallible.assert_eq_ok, Fallible.pure_eq_ok] at h
    obtain ⟨-, hone, h⟩ := h
    cases h
    obtain rfl : k = 0 := Fin.ext (show (k : Nat) = 0 by omega)
    exact .request horg hone hst
  case h_2 horg hst =>
    simp only [Fallible.bind_eq_ok, Fallible.assert_eq_ok, Fallible.pure_eq_ok] at h
    obtain ⟨-, hstep', h⟩ := h
    by_cases h2 : x.step = 2
    · simp [h2] at h
    · simp only [if_neg h2] at h
      cases h
      obtain rfl : k = 2 := Fin.ext (show (k : Nat) = 2 by omega)
      exact .triggeredReply horg hstep hst
  case h_3 horg hst =>
    simp only [Fallible.bind_eq_ok, Fallible.assert_eq_ok, Fallible.pure_eq_ok] at h
    obtain ⟨-, htwo, h⟩ := h
    cases h
    obtain rfl : k = 1 := Fin.ext (show (k : Nat) = 1 by omega)
    exact .triggered horg htwo hst
  case h_4 horg hst =>
    simp only [Fallible.bind_eq_ok, Fallible.assert_eq_ok, Fallible.pure_eq_ok] at h
    obtain ⟨-, hstep', h⟩ := h
    by_cases h3 : x.step = 3
    · simp [h3] at h
    · simp only [if_neg h3] at h
      cases h
      obtain rfl : k = 1 := Fin.ext (show (k : Nat) = 1 by omega)
      exact .reply horg hstep hst
  case h_5 => cases h

end

/-! ## What a call does -/

/-- What the call `op` can do in state `s` to a transaction in slot `k` that stays alive. -/
inductive XactChange (s : GtpState) (op : XactOp) (k : XactIdx) : GtpXact → GtpXact → Prop
  | same (x) : XactChange s op k x x
  | tx {x y hdesc pkbuf} : op = .updateTx k hdesc pkbuf →
      ogsGtpXactUpdateTx x hdesc pkbuf = .ok y → XactChange s op k x y
  | rx {x y env gnode h sendto org rv pkbufs} : op = .receive env gnode h sendto →
      xactListOf h.type (ogsGtpSqnToXid h.sqn) = some org →
      s.lookup org gnode (ogsGtpSqnToXid h.sqn) = some k →
      ogsGtpXactUpdateRx x h.type sendto = .ok (rv, y, pkbufs) → XactChange s op k x y
  | commit {x y sendto} : op = .commit k sendto → commitStage x = .ok (some y) →
      XactChange s op k x y
  | response {x sendto} : op = .responseTimeout k sendto → x.tmResponse = true →
      x.responseRcount - 1 > 0 →
      XactChange s op k x { x with responseRcount := x.responseRcount - 1 }
  | holding {x} : op = .holdingTimeout k → x.tmHolding = true → x.holdingRcount - 1 > 0 →
      XactChange s op k x { x with holdingRcount := x.holdingRcount - 1 }
  | assoc {x} (a : Option XactIdx) : XactChange s op k x { x with assocXact := a }

/-- What a transaction that the call `op` creates in state `s` can look like. -/
inductive XactBorn [Ogslib] (s : GtpState) (op : XactOp) : GtpXact → Prop
  | localCreate {env gnode hdesc pkbuf x} : op = .localCreate env gnode hdesc pkbuf →
      ogsGtpXactUpdateTx (.fresh .localOriginator
        (Ogslib.nextId s.gXactId gtpMinXactId gtpMaxXactId) gnode) hdesc pkbuf = .ok x →
      XactBorn s op x
  | remoteCreate {env gnode h sendto rv x pkbufs} : op = .receive env gnode h sendto →
      xactListOf h.type (ogsGtpSqnToXid h.sqn) = some .remoteOriginator →
      s.lookup .remoteOriginator gnode (ogsGtpSqnToXid h.sqn) = none →
      ogsGtpXactUpdateRx (.fresh .remoteOriginator (ogsGtpSqnToXid h.sqn) gnode) h.type sendto =
        .ok (rv, x, pkbufs) →
      XactBorn s op x

section
variable {s t : GtpState} {i j k : XactIdx} {y : GtpXact} {op : XactOp}

/-- Transactions only lose their partner when another one is deleted. -/
def Detached (s t : GtpState) : Prop :=
  ∀ k y, t.pool k = some y →
    ∃ x, s.pool k = some x ∧ (y = x ∨ y = { x with assocXact := none })

theorem Detached.refl (s : GtpState) : Detached s s := fun _ y hk => ⟨y, hk, .inl rfl⟩

theorem Detached.trans {u : GtpState} (h₁ : Detached s t) (h₂ : Detached t u) :
    Detached s u := by
  intro k z hz
  obtain ⟨y, hy, hzy⟩ := h₂ k z hz
  obtain ⟨x, hx, hyx⟩ := h₁ k y hy
  refine ⟨x, hx, ?_⟩
  rcases hzy with rfl | rfl
  · exact hyx
  · right
    rcases hyx with rfl | rfl <;> rfl

theorem deassociate_detached (h : ogsGtpXactDeassociate s i j = .ok t) : Detached s t := by
  unfold ogsGtpXactDeassociate at h
  simp only [Fallible.bind_eq_ok, GtpState.find_eq_ok, Fallible.assert_eq_ok,
    Fallible.pure_eq_ok, Except.ok.injEq] at h
  obtain ⟨x, hx, z, hz, -, -, -, -, z', hz', rfl⟩ := h
  intro k y hk
  simp only [GtpState.set_pool] at hk hz'
  by_cases hkj : k = j
  · subst hkj
    simp only [if_true, Option.some.injEq] at hk
    subst hk
    by_cases hki : k = i
    · subst hki
      simp only [if_true, Option.some.injEq] at hz'
      subst hz'
      exact ⟨x, hx, .inr rfl⟩
    · rw [if_neg hki] at hz'
      exact ⟨z', hz', .inr rfl⟩
  · rw [if_neg hkj] at hk
    by_cases hki : k = i
    · subst hki
      simp only [if_true, Option.some.injEq] at hk
      subst hk
      exact ⟨x, hx, .inr rfl⟩
    · rw [if_neg hki] at hk
      exact ⟨y, hk, .inl rfl⟩

theorem delete_detached (h : ogsGtpXactDelete s i = .ok t) :
    Detached s t ∧ t.pool i = none := by
  unfold ogsGtpXactDelete at h
  simp only [Fallible.bind_eq_ok, GtpState.find_eq_ok] at h
  obtain ⟨x, hx, h⟩ := h
  obtain ⟨u, hsu, rfl⟩ : ∃ u, Detached s u ∧ t = u.remove i x := by
    split at h
    case h_1 j hp =>
      simp only [Fallible.bind_eq_ok, Fallible.pure_eq_ok, Except.ok.injEq] at h
      obtain ⟨u, hu, rfl⟩ := h
      exact ⟨u, deassociate_detached hu, rfl⟩
    case h_2 hp =>
      simp only [Fallible.pure_eq_ok, Fallible.ok_bind, Except.ok.injEq] at h
      exact ⟨s, .refl s, h.symm⟩
  refine ⟨hsu.trans ?_, by simp⟩
  intro k y hk
  rw [GtpState.remove_pool] at hk
  by_cases hki : k = i
  · simp [hki] at hk
  · rw [if_neg hki] at hk
    exact ⟨y, hk, .inl rfl⟩

theorem foldlM_delete_detached {l : List XactIdx} (h : l.foldlM ogsGtpXactDelete s = .ok t) :
    Detached s t := by
  induction l generalizing s with
  | nil =>
    simp only [List.foldlM_nil, Fallible.pure_eq_ok, Except.ok.injEq] at h
    subst h
    exact .refl s
  | cons i l ih =>
    simp only [List.foldlM_cons, Fallible.bind_eq_ok] at h
    obtain ⟨u, hu, hut⟩ := h
    exact (delete_detached hu).1.trans (ih hut)

theorem deleteAll_detached {n : NodeId} (h : ogsGtpXactDeleteAll s n = .ok t) :
    Detached s t := by
  unfold ogsGtpXactDeleteAll at h
  rw [Fallible.bind_eq_ok] at h
  obtain ⟨u, hu, hut⟩ := h
  exact (foldlM_delete_detached hu).trans (foldlM_delete_detached hut)

/-- Every transaction of `t` is one of `s` after a change, or a new one. -/
def Evolves [Ogslib] (op : XactOp) (s t : GtpState) : Prop :=
  ∀ k y, t.pool k = some y →
    (∃ x, s.pool k = some x ∧ XactChange s op k x y) ∨
      (op.slot = some k ∧ s.pool k = none ∧ XactBorn s op y)

theorem Detached.evolves [Ogslib] (h : Detached s t) : Evolves op s t := by
  intro k y hk
  obtain ⟨x, hx, rfl | rfl⟩ := h k y hk
  · exact .inl ⟨y, hx, .same y⟩
  · exact .inl ⟨x, hx, .assoc none⟩

theorem set_evolves [Ogslib] {x : GtpXact} (hx : s.pool i = some x)
    (hxy : XactChange s op i x y) :
    Evolves op s (s.set i y) := by
  intro k z hk
  rw [GtpState.set_pool] at hk
  by_cases hki : k = i
  · subst hki
    simp only [if_true, Option.some.injEq] at hk
    subst hk
    exact .inl ⟨x, hx, hxy⟩
  · rw [if_neg hki] at hk
    exact .inl ⟨z, hk, .same z⟩

theorem insert_evolves [Ogslib] (hop : op.slot = some i) (hi : s.pool i = none)
    (hy : XactBorn s op y) {u : GtpState} (hu : u.pool = s.pool) : Evolves op s (u.insert i y) := by
  intro k z hk
  rw [GtpState.insert_pool] at hk
  by_cases hki : k = i
  · subst hki
    simp only [if_true, Option.some.injEq] at hk
    subst hk
    exact .inr ⟨hop, hi, hy⟩
  · rw [if_neg hki, hu] at hk
    exact .inl ⟨z, hk, .same z⟩

/-- Deleting a transaction after writing to it leaves no trace of the write. -/
theorem delete_set_evolves [Ogslib] {x : GtpXact}
    (h : ogsGtpXactDelete (s.set i x) i = .ok t) : Evolves op s t := by
  have hd := delete_detached h
  intro k z hk
  by_cases hki : k = i
  · subst hki
    simp [hd.2] at hk
  · obtain ⟨x', hx', hz⟩ := hd.1 k z hk
    rw [GtpState.set_pool, if_neg hki] at hx'
    rcases hz with rfl | rfl
    · exact .inl ⟨z, hx', .same z⟩
    · exact .inl ⟨x', hx', .assoc none⟩

theorem localCreate_evolves [Ogslib] {env : CreateEnv} {n : NodeId} {hdesc : GtpHeader}
    {pkbuf : Bytes} (hfree : ∀ i, env.slot = some i → s.pool i = none)
    (h : ogsGtpXactLocalCreate s env n hdesc pkbuf = .ok (t, i)) :
    Evolves (.localCreate env n hdesc pkbuf) s t := by
  unfold ogsGtpXactLocalCreate at h
  simp only [Fallible.bind_eq_ok, Fallible.assertSome_eq_ok, Fallible.pure_eq_ok,
    Except.ok.injEq, Prod.mk.injEq] at h
  obtain ⟨i', hi', -, -, -, -, x, hx, rfl, -⟩ := h
  refine insert_evolves ?_ (hfree i' hi') (.localCreate rfl hx) rfl
  exact hi'

/-- `ogs_gtp_xact_receive` finds a transaction or creates one, and updates it. -/
theorem receive_cases [Ogslib] {env : CreateEnv} {n : NodeId} {h : GtpHeader} {b : Bool}
    {rv : Rv} (hr : ogsGtpXactReceive s env n h b = .ok (t, rv, i)) :
    ∃ org y pkbufs, xactListOf h.type (ogsGtpSqnToXid h.sqn) = some org ∧
      ((∃ x, s.lookup org n (ogsGtpSqnToXid h.sqn) = some i ∧ s.pool i = some x ∧
          RxCase x h.type b rv y pkbufs ∧ t = (s.set i y).sendto n pkbufs) ∨
        (s.lookup org n (ogsGtpSqnToXid h.sqn) = none ∧ env.slot = some i ∧
          RxCase (.fresh .remoteOriginator (ogsGtpSqnToXid h.sqn) n) h.type b rv y pkbufs ∧
          t = ((s.insert i (.fresh .remoteOriginator (ogsGtpSqnToXid h.sqn) n)).set i y).sendto
            n pkbufs)) := by
  unfold ogsGtpXactReceive ogsGtpXactFindByXid at hr
  simp only [Fallible.bind_eq_ok, Fallible.assertSome_eq_ok, Fallible.pure_eq_ok,
    Except.ok.injEq] at hr
  obtain ⟨o, ⟨org, horg, rfl⟩, hr⟩ := hr
  split at hr
  case h_1 k hl =>
    simp only [Fallible.ok_bind, Fallible.bind_eq_ok, GtpState.find_eq_ok, Except.ok.injEq,
      Prod.mk.injEq] at hr
    obtain ⟨x, hx, ⟨rv', y, pkbufs⟩, hrx, rfl, rfl, rfl⟩ := hr
    exact ⟨org, y, pkbufs, horg, .inl ⟨x, hl, hx, updateRx_eq_ok.mp hrx, rfl⟩⟩
  case h_2 hl =>
    simp only [ogsGtpXactRemoteCreate, Fallible.bind_eq_ok, Fallible.assertSome_eq_ok,
      Fallible.pure_eq_ok, GtpState.find_eq_ok, Except.ok.injEq, Prod.mk.injEq] at hr
    obtain ⟨⟨u, k⟩, ⟨k', hk', -, -, -, -, rfl, rfl⟩, x, hx, ⟨rv', y, pkbufs⟩, hrx, rfl, rfl,
      rfl⟩ := hr
    simp only [GtpState.insert_pool, if_true, Option.some.injEq] at hx
    subst hx
    exact ⟨org, y, pkbufs, horg, .inr ⟨hl, hk', updateRx_eq_ok.mp hrx, rfl⟩⟩

/-- A message for a transaction that is found updates it. -/
theorem receive_of_lookup [Ogslib] (env : CreateEnv) {n : NodeId} {h : GtpHeader} {b : Bool}
    {org : Originator} {x : GtpXact} {rv : Rv} {pkbufs : List Bytes}
    (horg : xactListOf h.type (ogsGtpSqnToXid h.sqn) = some org)
    (hl : s.lookup org n (ogsGtpSqnToXid h.sqn) = some i) (hx : s.pool i = some x)
    (hrx : RxCase x h.type b rv y pkbufs) :
    ogsGtpXactReceive s env n h b = .ok ((s.set i y).sendto n pkbufs, rv, i) := by
  unfold ogsGtpXactReceive ogsGtpXactFindByXid
  rw [horg, Fallible.assertSome_some, Fallible.ok_bind, Fallible.pure_eq_ok, Fallible.ok_bind]
  simp only [hl, Fallible.pure_eq_ok, Fallible.ok_bind, GtpState.find_eq_ok.mpr hx,
    updateRx_eq_ok.mpr hrx]

/-- Only a request that opens a procedure starts a remote transaction. -/
theorem RxCase.fresh_remote {xid : UInt32} {n : NodeId} {type : UInt8} {b : Bool} {rv : Rv}
    {pkbufs : List Bytes} (h : RxCase (.fresh .remoteOriginator xid n) type b rv y pkbufs) :
    ogsGtpXactGetStage type xid = .initial ∧ rv = .ok ∧ pkbufs = [] ∧
      y = { GtpXact.fresh .remoteOriginator xid n with tmHolding := true }.accepted type 0 := by
  cases h with
  | request _ hst _ _ => exact ⟨hst, rfl, rfl, rfl⟩
  | triggered horg => cases horg
  | response horg => cases horg
  | triggeredReply _ _ hstep => cases hstep
  | discard h =>
    rcases h with ⟨_, _, _, hstep | hstep, _⟩ | ⟨horg, _⟩
    · cases hstep
    · cases hstep
    · cases horg
  | retransmit _ h =>
    rcases h with ⟨_, _, _, hstep | hstep, _⟩ | ⟨horg, _⟩
    · cases hstep
    · cases hstep
    · cases horg

theorem receive_evolves [Ogslib] {env : CreateEnv} {n : NodeId} {h : GtpHeader} {b : Bool}
    {rv : Rv} (hfree : ∀ i, env.slot = some i → s.pool i = none)
    (hr : ogsGtpXactReceive s env n h b = .ok (t, rv, i)) :
    Evolves (.receive env n h b) s t := by
  obtain ⟨org, y, pkbufs, horg, hcase⟩ := receive_cases hr
  rcases hcase with ⟨x, hl, hx, hrx, rfl⟩ | ⟨hl, hslot, hrx, rfl⟩
  · exact set_evolves hx (.rx rfl horg hl (updateRx_eq_ok.mpr hrx))
  · have hst := hrx.fresh_remote.1
    have hremote : xactListOf h.type (ogsGtpSqnToXid h.sqn) = some .remoteOriginator := by
      simp [xactListOf, hst]
    obtain rfl : org = .remoteOriginator := Option.some.inj (horg.symm.trans hremote)
    intro k z hk
    simp only [GtpState.sendto_pool, GtpState.set_pool, GtpState.insert_pool] at hk
    by_cases hki : k = i
    · subst hki
      simp only [if_true, Option.some.injEq] at hk
      subst hk
      exact .inr ⟨hslot, hfree k hslot, .remoteCreate rfl hremote hl (updateRx_eq_ok.mpr hrx)⟩
    · rw [if_neg hki, if_neg hki] at hk
      exact .inl ⟨z, hk, .same z⟩

theorem commit_evolves [Ogslib] {b : Bool} (h : ogsGtpXactCommit s i b = .ok t) :
    Evolves (.commit i b) s t := by
  unfold ogsGtpXactCommit at h
  simp only [Fallible.bind_eq_ok, GtpState.find_eq_ok] at h
  obtain ⟨x, hx, o, ho, h⟩ := h
  cases o with
  | none => exact (delete_detached h).1.evolves
  | some y =>
    simp only [Fallible.bind_eq_ok, Fallible.pure_eq_ok, Except.ok.injEq] at h
    obtain ⟨e, -, p, -, -, -, rfl⟩ := h
    exact set_evolves hx (.commit rfl ho)

theorem responseTimeout_evolves [Ogslib] {b : Bool} {x : GtpXact} (hx : s.pool i = some x)
    (hrun : x.tmResponse = true) (h : responseTimeout s i b = .ok t) :
    Evolves (.responseTimeout i b) s t := by
  unfold responseTimeout at h
  simp only [Fallible.bind_eq_ok, GtpState.find_eq_ok] at h
  obtain ⟨x', hx', e, -, h⟩ := h
  obtain rfl : x = x' := Option.some.inj (hx.symm.trans hx')
  split at h
  case isTrue hcount =>
    simp only [Fallible.bind_eq_ok] at h
    obtain ⟨p, -, h⟩ := h
    split at h
    case isTrue =>
      simp only [Fallible.pure_eq_ok, Except.ok.injEq] at h
      subst h
      have hxy : XactChange s (.responseTimeout i b) i x _ := .response rfl hrun hcount
      rw [← hrun]
      exact set_evolves hx hxy
    case isFalse => exact delete_set_evolves h
  case isFalse => exact delete_set_evolves h

theorem holdingTimeout_evolves [Ogslib] {x : GtpXact} (hx : s.pool i = some x)
    (hrun : x.tmHolding = true) (h : holdingTimeout s i = .ok t) :
    Evolves (.holdingTimeout i) s t := by
  unfold holdingTimeout at h
  simp only [Fallible.bind_eq_ok, GtpState.find_eq_ok] at h
  obtain ⟨x', hx', e, -, h⟩ := h
  obtain rfl : x = x' := Option.some.inj (hx.symm.trans hx')
  split at h
  case isTrue hcount =>
    simp only [Fallible.pure_eq_ok, Except.ok.injEq] at h
    subst h
    have hxy : XactChange s (.holdingTimeout i) i x _ := .holding rfl hrun hcount
    rw [← hrun]
    exact set_evolves hx hxy
  case isFalse => exact delete_set_evolves h

theorem associate_evolves [Ogslib] (h : ogsGtpXactAssociate s i j = .ok t) : Evolves op s t := by
  unfold ogsGtpXactAssociate at h
  simp only [Fallible.bind_eq_ok, GtpState.find_eq_ok, Fallible.assert_eq_ok,
    Fallible.pure_eq_ok, Except.ok.injEq] at h
  obtain ⟨x, hx, z, hz, -, -, -, -, z', hz', rfl⟩ := h
  intro k y hk
  simp only [GtpState.set_pool] at hk hz'
  by_cases hkj : k = j
  · subst hkj
    simp only [if_true, Option.some.injEq] at hk
    subst hk
    by_cases hki : k = i
    · subst hki
      simp only [if_true, Option.some.injEq] at hz'
      subst hz'
      exact .inl ⟨x, hx, .assoc (some k)⟩
    · rw [if_neg hki] at hz'
      exact .inl ⟨z', hz', .assoc (some i)⟩
  · rw [if_neg hkj] at hk
    by_cases hki : k = i
    · subst hki
      simp only [if_true, Option.some.injEq] at hk
      subst hk
      exact .inl ⟨x, hx, .assoc (some j)⟩
    · rw [if_neg hki] at hk
      exact .inl ⟨y, hk, .same y⟩

/-- Everything one call can do to the live transactions. -/
theorem XactStep.evolves [Ogslib] {out : XactOut} (h : XactStep s (op, out) t) :
    Evolves op s t := by
  obtain ⟨hen, hex⟩ := h
  cases op with
  | localCreate env n hdesc pkbuf =>
    simp only [XactOp.exec, Fallible.bind_eq_ok, Fallible.pure_eq_ok, Except.ok.injEq,
      Prod.mk.injEq] at hex
    obtain ⟨⟨u, i⟩, hu, rfl, -⟩ := hex
    exact localCreate_evolves hen hu
  | receive env n h b =>
    simp only [XactOp.exec, Fallible.bind_eq_ok, Fallible.pure_eq_ok, Except.ok.injEq,
      Prod.mk.injEq] at hex
    obtain ⟨⟨u, rv, i⟩, hu, rfl, -⟩ := hex
    exact receive_evolves hen hu
  | updateTx i hdesc pkbuf =>
    simp only [XactOp.exec, Fallible.bind_eq_ok, GtpState.find_eq_ok, Fallible.pure_eq_ok,
      Except.ok.injEq, Prod.mk.injEq] at hex
    obtain ⟨x, hx, y, hy, rfl, -⟩ := hex
    exact set_evolves hx (.tx rfl hy)
  | commit i b =>
    simp only [XactOp.exec, Fallible.bind_eq_ok, Fallible.pure_eq_ok, Except.ok.injEq,
      Prod.mk.injEq] at hex
    obtain ⟨u, hu, rfl, -⟩ := hex
    exact commit_evolves hu
  | responseTimeout i b =>
    simp only [XactOp.exec, Fallible.bind_eq_ok, Fallible.pure_eq_ok, Except.ok.injEq,
      Prod.mk.injEq] at hex
    obtain ⟨u, hu, rfl, -⟩ := hex
    obtain ⟨x, hx, hrun⟩ := hen
    exact responseTimeout_evolves hx hrun hu
  | holdingTimeout i =>
    simp only [XactOp.exec, Fallible.bind_eq_ok, Fallible.pure_eq_ok, Except.ok.injEq,
      Prod.mk.injEq] at hex
    obtain ⟨u, hu, rfl, -⟩ := hex
    obtain ⟨x, hx, hrun⟩ := hen
    exact holdingTimeout_evolves hx hrun hu
  | associate i j =>
    simp only [XactOp.exec, Fallible.bind_eq_ok, Fallible.pure_eq_ok, Except.ok.injEq,
      Prod.mk.injEq] at hex
    obtain ⟨u, hu, rfl, -⟩ := hex
    exact associate_evolves hu
  | deassociate i j =>
    simp only [XactOp.exec, Fallible.bind_eq_ok, Fallible.pure_eq_ok, Except.ok.injEq,
      Prod.mk.injEq] at hex
    obtain ⟨u, hu, rfl, -⟩ := hex
    exact (deassociate_detached hu).evolves
  | deleteAll n =>
    simp only [XactOp.exec, Fallible.bind_eq_ok, Fallible.pure_eq_ok, Except.ok.injEq,
      Prod.mk.injEq] at hex
    obtain ⟨u, hu, rfl, -⟩ := hex
    exact (deleteAll_detached hu).evolves

/-- A property of single transactions that is true when one is created and kept by every
change of it is true of all live transactions of every reachable state. -/
theorem XactReachable.live_invariant [Ogslib] {I : GtpXact → Prop}
    (hborn : ∀ s op x, XactBorn s op x → I x)
    (hchange : ∀ s op k x y, XactChange s op k x y → I x → I y)
    (h : XactReachable s) : ∀ i x, s.pool i = some x → I x := by
  refine Lts.Reaches.invariant (I := fun s => ∀ i x, s.pool i = some x → I x) ?_ h ?_
  · intro s label t hs hstep i y hi
    rcases hstep.evolves i y hi with ⟨x, hx, hxy⟩ | ⟨-, -, hy⟩
    · exact hchange s _ i x y hxy (hs i x hx)
    · exact hborn s _ y hy
  · intro i x hi
    simp [GtpState.init] at hi

end

end NextEpc

import NextEpc.Gtp.XactInvariant

/-!
# The transaction table

The two lists of a peer hold exactly its live transactions, each once, and no two live
transactions of remote origin share peer and identity. Looking up a transaction by its
identity is therefore a search among the live transactions.
-/

namespace NextEpc

/-- What the calls do to the pool and the lists, one write at a time. -/
inductive TableStep [Ogslib] (s : GtpState) : GtpState → Prop
  | set {i x y} : s.pool i = some x → y.org = x.org → y.gnode = x.gnode →
      TableStep s (s.set i y)
  | insert {i x} : s.pool i = none → TableStep s (s.insert i x)
  | count : TableStep s { s with
      gXactId := Ogslib.nextId s.gXactId gtpMinXactId gtpMaxXactId }
  | remove {i x y} : s.pool i = some x → y.org = x.org → y.gnode = x.gnode →
      TableStep s (s.remove i y)
  | sendto (n ps) : TableStep s (s.sendto n ps)

def TableSteps [Ogslib] : GtpState → GtpState → Prop := Relation.ReflTransGen TableStep

/-- The lists hold the live transactions. -/
structure Linked (s : GtpState) : Prop where
  nodup : ∀ org n, (s.xactList org n).Nodup
  mem_iff : ∀ org n i, i ∈ s.xactList org n ↔
    ∃ x, s.pool i = some x ∧ x.org = org ∧ x.gnode = n

/-- Live transactions of one origin are told apart by peer and identity. -/
def UniqueXid (org : Originator) (s : GtpState) : Prop :=
  ∀ i j x y, s.pool i = some x → s.pool j = some y → x.org = org → y.org = org →
    x.gnode = y.gnode → x.xid = y.xid → i = j

section
variable {s t : GtpState} {i j : XactIdx} {x y : GtpXact} {op : XactOp} {out : XactOut}

theorem TableStep.single [Ogslib] (h : TableStep s t) : TableSteps s t :=
  Relation.ReflTransGen.single h

theorem TableSteps.snoc [Ogslib] {u : GtpState} (h : TableSteps s t) (hu : TableStep t u) :
    TableSteps s u :=
  Relation.ReflTransGen.tail h hu

theorem deassociate_table [Ogslib] (h : ogsGtpXactDeassociate s i j = .ok t) :
    TableSteps s t := by
  unfold ogsGtpXactDeassociate at h
  simp only [Fallible.bind_eq_ok, GtpState.find_eq_ok, Fallible.assert_eq_ok,
    Fallible.pure_eq_ok, Except.ok.injEq] at h
  obtain ⟨x, hx, -, -, -, -, -, -, z, hz, rfl⟩ := h
  have hset : TableStep s (s.set i { x with assocXact := none }) := .set hx rfl rfl
  exact hset.single.snoc (.set hz rfl rfl)

theorem associate_table [Ogslib] (h : ogsGtpXactAssociate s i j = .ok t) :
    TableSteps s t := by
  unfold ogsGtpXactAssociate at h
  simp only [Fallible.bind_eq_ok, GtpState.find_eq_ok, Fallible.assert_eq_ok,
    Fallible.pure_eq_ok, Except.ok.injEq] at h
  obtain ⟨x, hx, -, -, -, -, -, -, z, hz, rfl⟩ := h
  have hset : TableStep s (s.set i { x with assocXact := some j }) := .set hx rfl rfl
  exact hset.single.snoc (.set hz rfl rfl)

/-- Deassociating changes no key. -/
theorem deassociate_key (h : ogsGtpXactDeassociate s i j = .ok t) (hx : s.pool i = some x) :
    ∃ z, t.pool i = some z ∧ z.org = x.org ∧ z.gnode = x.gnode := by
  unfold ogsGtpXactDeassociate at h
  simp only [Fallible.bind_eq_ok, GtpState.find_eq_ok, Fallible.assert_eq_ok,
    Fallible.pure_eq_ok, Except.ok.injEq] at h
  obtain ⟨x', hx', -, -, -, -, -, -, z, hz, rfl⟩ := h
  obtain rfl : x' = x := Option.some.inj (hx'.symm.trans hx)
  by_cases hij : i = j
  · subst hij
    simp only [GtpState.set_pool, if_true, Option.some.injEq] at hz ⊢
    subst hz
    exact ⟨_, rfl, rfl, rfl⟩
  · simp only [GtpState.set_pool, if_neg hij, if_true]
    exact ⟨_, rfl, rfl, rfl⟩

theorem delete_table [Ogslib] (h : ogsGtpXactDelete s i = .ok t) : TableSteps s t := by
  unfold ogsGtpXactDelete at h
  simp only [Fallible.bind_eq_ok, GtpState.find_eq_ok] at h
  obtain ⟨x, hx, h⟩ := h
  split at h
  case h_1 j hp =>
    simp only [Fallible.bind_eq_ok, Fallible.pure_eq_ok, Except.ok.injEq] at h
    obtain ⟨u, hu, rfl⟩ := h
    obtain ⟨z, hz, horg, hnode⟩ := deassociate_key hu hx
    exact (deassociate_table hu).snoc (.remove hz horg.symm hnode.symm)
  case h_2 hp =>
    simp only [Fallible.pure_eq_ok, Fallible.ok_bind, Except.ok.injEq] at h
    subst h
    exact (TableStep.remove hx rfl rfl).single

theorem foldlM_delete_table [Ogslib] {l : List XactIdx}
    (h : l.foldlM ogsGtpXactDelete s = .ok t) : TableSteps s t := by
  induction l generalizing s with
  | nil =>
    simp only [List.foldlM_nil, Fallible.pure_eq_ok, Except.ok.injEq] at h
    subst h
    exact Relation.ReflTransGen.refl
  | cons i l ih =>
    simp only [List.foldlM_cons, Fallible.bind_eq_ok] at h
    obtain ⟨u, hu, hut⟩ := h
    exact (delete_table hu).trans (ih hut)

theorem TxCase.key {hdesc : GtpHeader} {pkbuf : Bytes} (h : TxCase x hdesc pkbuf y) :
    y.org = x.org ∧ y.gnode = x.gnode ∧ y.xid = x.xid := by
  cases h <;> exact ⟨rfl, rfl, rfl⟩

theorem RxCase.key {type : UInt8} {b : Bool} {rv : Rv} {pkbufs : List Bytes}
    (h : RxCase x type b rv y pkbufs) :
    y.org = x.org ∧ y.gnode = x.gnode ∧ y.xid = x.xid := by
  cases h <;> exact ⟨rfl, rfl, rfl⟩

theorem CommitCase.key (h : CommitCase x y) :
    y.org = x.org ∧ y.gnode = x.gnode ∧ y.xid = x.xid := by
  cases h <;> exact ⟨rfl, rfl, rfl⟩

theorem XactChange.key (h : XactChange s op i x y) :
    y.org = x.org ∧ y.gnode = x.gnode ∧ y.xid = x.xid := by
  cases h with
  | same => exact ⟨rfl, rfl, rfl⟩
  | tx _ htx => exact (updateTx_eq_ok.mp htx).key
  | rx _ _ _ hrx => exact (updateRx_eq_ok.mp hrx).key
  | commit _ hc => exact (commitStage_eq_some hc).key
  | response => exact ⟨rfl, rfl, rfl⟩
  | holding => exact ⟨rfl, rfl, rfl⟩
  | assoc => exact ⟨rfl, rfl, rfl⟩

theorem receive_table [Ogslib] {env : CreateEnv} {n : NodeId} {h : GtpHeader} {b : Bool}
    {rv : Rv} (hfree : ∀ i, env.slot = some i → s.pool i = none)
    (hr : ogsGtpXactReceive s env n h b = .ok (t, rv, i)) : TableSteps s t := by
  obtain ⟨org, y, pkbufs, -, hcase⟩ := receive_cases hr
  rcases hcase with ⟨x, -, hx, hrx, rfl⟩ | ⟨-, hslot, hrx, rfl⟩
  · have hset : TableStep s (s.set i y) := .set hx hrx.key.1 hrx.key.2.1
    exact hset.single.snoc (.sendto n pkbufs)
  · have hins : TableStep s (s.insert i (.fresh .remoteOriginator (ogsGtpSqnToXid h.sqn) n)) :=
      .insert (hfree i hslot)
    have hset := hins.single.snoc (.set (i := i) (by simp) hrx.key.1 hrx.key.2.1)
    exact hset.snoc (.sendto n pkbufs)

theorem commit_table [Ogslib] {b : Bool} (h : ogsGtpXactCommit s i b = .ok t) :
    TableSteps s t := by
  unfold ogsGtpXactCommit at h
  simp only [Fallible.bind_eq_ok, GtpState.find_eq_ok] at h
  obtain ⟨x, hx, o, ho, h⟩ := h
  cases o with
  | none => exact delete_table h
  | some y =>
    simp only [Fallible.bind_eq_ok, Fallible.pure_eq_ok, Except.ok.injEq] at h
    obtain ⟨e, -, p, -, -, -, rfl⟩ := h
    have hkey := (commitStage_eq_some ho).key
    have hset : TableStep s (s.set i y) := .set hx hkey.1 hkey.2.1
    exact hset.single.snoc (.sendto _ _)

theorem responseTimeout_table [Ogslib] {b : Bool} (h : responseTimeout s i b = .ok t) :
    TableSteps s t := by
  unfold responseTimeout at h
  simp only [Fallible.bind_eq_ok, GtpState.find_eq_ok] at h
  obtain ⟨x, hx, e, -, h⟩ := h
  have hset : ∀ r c, TableStep s (s.set i { x with tmResponse := r, responseRcount := c }) :=
    fun _ _ => .set hx rfl rfl
  split at h
  case isTrue =>
    simp only [Fallible.bind_eq_ok] at h
    obtain ⟨p, -, h⟩ := h
    split at h
    case isTrue =>
      simp only [Fallible.pure_eq_ok, Except.ok.injEq] at h
      subst h
      exact (hset _ _).single.snoc (.sendto _ _)
    case isFalse => exact (hset _ _).single.trans (delete_table h)
  case isFalse => exact (hset _ _).single.trans (delete_table h)

theorem holdingTimeout_table [Ogslib] (h : holdingTimeout s i = .ok t) : TableSteps s t := by
  unfold holdingTimeout at h
  simp only [Fallible.bind_eq_ok, GtpState.find_eq_ok] at h
  obtain ⟨x, hx, e, -, h⟩ := h
  have hset : ∀ r c, TableStep s (s.set i { x with tmHolding := r, holdingRcount := c }) :=
    fun _ _ => .set hx rfl rfl
  split at h
  case isTrue =>
    simp only [Fallible.pure_eq_ok, Except.ok.injEq] at h
    subst h
    exact (hset _ _).single
  case isFalse => exact (hset _ _).single.trans (delete_table h)

theorem XactStep.table [Ogslib] (h : XactStep s (op, out) t) : TableSteps s t := by
  obtain ⟨hen, hex⟩ := h
  cases op with
  | localCreate env n hdesc pkbuf =>
    simp only [XactOp.exec, ogsGtpXactLocalCreate, Fallible.bind_eq_ok,
      Fallible.assertSome_eq_ok, Fallible.pure_eq_ok, Except.ok.injEq, Prod.mk.injEq] at hex
    obtain ⟨_, ⟨k, hk, -, -, -, -, x, hx, rfl⟩, rfl, -⟩ := hex
    exact TableStep.count.single.snoc (.insert (hen k hk))
  | receive env n h b =>
    simp only [XactOp.exec, Fallible.bind_eq_ok, Fallible.pure_eq_ok, Except.ok.injEq,
      Prod.mk.injEq] at hex
    obtain ⟨⟨u, rv, i⟩, hu, rfl, -⟩ := hex
    exact receive_table hen hu
  | updateTx i hdesc pkbuf =>
    simp only [XactOp.exec, Fallible.bind_eq_ok, GtpState.find_eq_ok, Fallible.pure_eq_ok,
      Except.ok.injEq, Prod.mk.injEq] at hex
    obtain ⟨x, hx, y, hy, rfl, -⟩ := hex
    have hkey := (updateTx_eq_ok.mp hy).key
    exact TableStep.single (.set hx hkey.1 hkey.2.1)
  | commit i b =>
    simp only [XactOp.exec, Fallible.bind_eq_ok, Fallible.pure_eq_ok, Except.ok.injEq,
      Prod.mk.injEq] at hex
    obtain ⟨u, hu, rfl, -⟩ := hex
    exact commit_table hu
  | responseTimeout i b =>
    simp only [XactOp.exec, Fallible.bind_eq_ok, Fallible.pure_eq_ok, Except.ok.injEq,
      Prod.mk.injEq] at hex
    obtain ⟨u, hu, rfl, -⟩ := hex
    exact responseTimeout_table hu
  | holdingTimeout i =>
    simp only [XactOp.exec, Fallible.bind_eq_ok, Fallible.pure_eq_ok, Except.ok.injEq,
      Prod.mk.injEq] at hex
    obtain ⟨u, hu, rfl, -⟩ := hex
    exact holdingTimeout_table hu
  | associate i j =>
    simp only [XactOp.exec, Fallible.bind_eq_ok, Fallible.pure_eq_ok, Except.ok.injEq,
      Prod.mk.injEq] at hex
    obtain ⟨u, hu, rfl, -⟩ := hex
    exact associate_table hu
  | deassociate i j =>
    simp only [XactOp.exec, Fallible.bind_eq_ok, Fallible.pure_eq_ok, Except.ok.injEq,
      Prod.mk.injEq] at hex
    obtain ⟨u, hu, rfl, -⟩ := hex
    exact deassociate_table hu
  | deleteAll n =>
    simp only [XactOp.exec, ogsGtpXactDeleteAll, Fallible.bind_eq_ok, Fallible.pure_eq_ok,
      Except.ok.injEq, Prod.mk.injEq] at hex
    obtain ⟨u, ⟨v, hv, hvu⟩, rfl, -⟩ := hex
    exact (foldlM_delete_table hv).trans (foldlM_delete_table hvu)

theorem TableStep.linked [Ogslib] (h : TableStep s t) (hs : Linked s) : Linked t := by
  cases h with
  | @set i x y hx horg hnode =>
    refine ⟨hs.nodup, fun org n k => ?_⟩
    rw [GtpState.set_xactList, hs.mem_iff, GtpState.set_pool]
    by_cases hk : k = i
    · subst hk
      simp [hx, horg, hnode]
    · rw [if_neg hk]
  | @insert i x hi =>
    have hnew : ∀ org n, i ∉ s.xactList org n := by
      intro org n hmem
      obtain ⟨z, hz, -⟩ := (hs.mem_iff org n i).mp hmem
      rw [hi] at hz
      cases hz
    refine ⟨fun org n => ?_, fun org n k => ?_⟩
    · rw [GtpState.insert_xactList]
      split
      · rw [List.nodup_append]
        refine ⟨hs.nodup org n, by simp, ?_⟩
        rintro a ha b hb rfl
        rw [List.mem_singleton] at hb
        subst hb
        exact hnew org n ha
      · exact hs.nodup org n
    · rw [GtpState.insert_xactList, GtpState.insert_pool]
      by_cases hk : k = i
      · subst hk
        simp only [if_true, Option.some.injEq, exists_eq_left']
        split
        case isTrue hkey => simp [hkey.1, hkey.2]
        case isFalse hkey =>
          refine iff_of_false (hnew org n) ?_
          rintro ⟨rfl, rfl⟩
          exact hkey ⟨rfl, rfl⟩
      · rw [if_neg hk, ← hs.mem_iff]
        split
        · simp [hk]
        · rfl
  | @remove i x y hx horg hnode =>
    refine ⟨fun org n => ?_, fun org n k => ?_⟩
    · rw [GtpState.remove_xactList]
      split
      · exact (hs.nodup org n).erase i
      · exact hs.nodup org n
    · rw [GtpState.remove_xactList, GtpState.remove_pool]
      by_cases hk : k = i
      · subst hk
        simp only [if_true, reduceCtorEq, false_and, exists_false, iff_false]
        split
        case isTrue => exact (hs.nodup org n).not_mem_erase
        case isFalse hkey =>
          rw [hs.mem_iff]
          rintro ⟨z, hz, rfl, rfl⟩
          obtain rfl : x = z := Option.some.inj (hx.symm.trans hz)
          exact hkey ⟨horg.symm, hnode.symm⟩
      · rw [if_neg hk, ← hs.mem_iff]
        split
        · exact List.mem_erase_of_ne hk
        · rfl
  | count => exact ⟨hs.nodup, hs.mem_iff⟩
  | sendto => exact ⟨hs.nodup, hs.mem_iff⟩

theorem TableSteps.linked [Ogslib] (h : TableSteps s t) (hs : Linked s) : Linked t := by
  induction h with
  | refl => exact hs
  | tail _ hstep ih => exact hstep.linked ih

theorem XactReachable.linked [Ogslib] (h : XactReachable s) : Linked s := by
  refine Lts.Reaches.invariant (I := Linked) ?_ h ?_
  · intro u label v hu hstep
    exact hstep.table.linked hu
  · exact ⟨fun _ _ => List.nodup_nil, by simp [GtpState.init]⟩

/-! ## Looking up an identity -/

theorem lookup_eq_some {org : Originator} {n : NodeId} {xid : UInt32} (hs : Linked s)
    (h : s.lookup org n xid = some i) :
    ∃ x, s.pool i = some x ∧ x.org = org ∧ x.gnode = n ∧ x.xid = xid := by
  unfold GtpState.lookup at h
  obtain ⟨x, hx, horg, hnode⟩ := (hs.mem_iff org n i).mp (List.mem_of_find?_eq_some h)
  have hxid := List.find?_some h
  simp only [hx, Option.any_some, decide_eq_true_eq] at hxid
  exact ⟨x, hx, horg, hnode, hxid⟩

theorem lookup_eq_none {org : Originator} {n : NodeId} {xid : UInt32} (hs : Linked s) :
    s.lookup org n xid = none ↔
      ∀ i x, s.pool i = some x → x.org = org → x.gnode = n → x.xid ≠ xid := by
  unfold GtpState.lookup
  rw [List.find?_eq_none]
  constructor
  · intro h i x hx horg hnode hxid
    have hmem := (hs.mem_iff org n i).mpr ⟨x, hx, horg, hnode⟩
    have hne := h i hmem
    simp [hx, hxid] at hne
  · intro h i hmem
    obtain ⟨x, hx, horg, hnode⟩ := (hs.mem_iff org n i).mp hmem
    simpa [hx] using h i x hx horg hnode

/-- With unique identities the search finds the transaction that has the identity. -/
theorem UniqueXid.lookup {org : Originator} (hu : UniqueXid org s) (hs : Linked s)
    (hx : s.pool i = some x) (horg : x.org = org) :
    s.lookup org x.gnode x.xid = some i := by
  cases hl : s.lookup org x.gnode x.xid with
  | none =>
    have hne := (lookup_eq_none hs).mp hl i x hx horg rfl
    exact absurd rfl hne
  | some j =>
    obtain ⟨z, hz, hzorg, hznode, hzxid⟩ := lookup_eq_some hs hl
    rw [hu j i z x hz hx hzorg horg hznode hzxid]

/-- A call keeps identities unique unless it creates a second transaction with one. -/
theorem XactStep.uniqueXid [Ogslib] {org : Originator} (h : XactStep s (op, out) t)
    (hu : UniqueXid org s)
    (hnew : ∀ y, XactBorn s op y → y.org = org →
      ∀ i x, s.pool i = some x → x.org = org → x.gnode = y.gnode → x.xid ≠ y.xid) :
    UniqueXid org t := by
  intro i j y z hy hz hyorg hzorg hnode hxid
  rcases h.evolves i y hy with ⟨x, hx, hxy⟩ | ⟨hi, -, hborn⟩
  · obtain ⟨hxorg, hxnode, hxxid⟩ := hxy.key
    rcases h.evolves j z hz with ⟨w, hw, hwz⟩ | ⟨-, -, hborn⟩
    · obtain ⟨hworg, hwnode, hwxid⟩ := hwz.key
      refine hu i j x w hx hw (hxorg.symm.trans hyorg) (hworg.symm.trans hzorg) ?_ ?_
      · rw [← hxnode, ← hwnode, hnode]
      · rw [← hxxid, ← hwxid, hxid]
    · refine absurd ?_ (hnew z hborn hzorg i x hx (hxorg.symm.trans hyorg) ?_)
      · rw [← hxxid, hxid]
      · rw [← hxnode, hnode]
  · rcases h.evolves j z hz with ⟨w, hw, hwz⟩ | ⟨hj, -, -⟩
    · obtain ⟨hworg, hwnode, hwxid⟩ := hwz.key
      refine absurd ?_ (hnew y hborn hyorg j w hw (hworg.symm.trans hzorg) ?_)
      · rw [← hwxid, hxid]
      · rw [← hwnode, hnode]
    · exact Option.some.inj (hi.symm.trans hj)

theorem XactReachable.uniqueRemote [Ogslib] (h : XactReachable s) :
    UniqueXid .remoteOriginator s := by
  refine Lts.Reaches.invariant_with (J := Linked) (I := UniqueXid .remoteOriginator) ?_ ?_ h ?_ ?_
  · intro u label v hu hstep
    exact hstep.table.linked hu
  · intro u label v hlinked hu hstep
    refine hstep.uniqueXid hu ?_
    intro y hborn hyorg i x hx hxorg hnode
    cases hborn with
    | localCreate _ htx =>
      rw [(updateTx_eq_ok.mp htx).key.1] at hyorg
      cases hyorg
    | remoteCreate _ _ hl hrx =>
      obtain ⟨-, hynode, hyxid⟩ := (updateRx_eq_ok.mp hrx).key
      rw [hyxid]
      exact (lookup_eq_none hlinked).mp hl i x hx hxorg (hnode.trans hynode)
  · exact ⟨fun _ _ => List.nodup_nil, by simp [GtpState.init]⟩
  · intro i j x y hx
    simp [GtpState.init] at hx

end

end NextEpc

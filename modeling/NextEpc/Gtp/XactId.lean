import NextEpc.Gtp.XactTable

/-!
# The two sequence-number spaces

`0x800000` is both the largest identity that `ogs_gtp_xact_local_create` gives out and the
bit that marks a sequence number as one of the peer's. The two uses agree until the counter
reaches `0x800000`; that one identity is taken for the peer's.
-/

namespace NextEpc

/-- The identity of the next local transaction. -/
def GtpState.nextXid [Ogslib] (s : GtpState) : UInt32 :=
  Ogslib.nextId s.gXactId gtpMinXactId gtpMaxXactId

/-- The next identity is not the flag, and no live local transaction of the peer has it. -/
def XidFree [Ogslib] (s : GtpState) (gnode : NodeId) : Prop :=
  s.gXactId ≠ 0x7fffff ∧ ∀ i x, s.pool i = some x → x.org = .localOriginator →
    x.gnode = gnode → x.xid ≠ s.nextXid

/-- Creating a local transaction takes a free identity. -/
def XidOk [Ogslib] (s : GtpState) (label : XactOp × XactOut) : Prop :=
  match label.1 with
  | .localCreate _ gnode _ _ => XidFree s gnode
  | _ => True

/-- A message of the peer that ends a procedure is found under the identity `xid`. -/
def AnswerFinds (s : GtpState) (gnode : NodeId) (xid : UInt32) (i : XactIdx) : Prop :=
  ∀ type ∈ GtpType.finals,
    ogsGtpXactFindByXid s gnode type (ogsGtpSqnToXid (ogsGtpXidToSqn xid)) = .ok (some i)

/-- The identity is on the node's own side of the space. -/
def OwnSpace (xid : UInt32) : Prop :=
  xid &&& gtpMaxXactId = 0 ∧
    ∀ type ∈ GtpType.bearerRequests, ogsGtpXactGetStage type xid = .initial

/-- A local transaction is created in the node's own space and its answer will be found. -/
def CreateSound [Ogslib] (s : GtpState) (env : CreateEnv) (gnode : NodeId) (hdesc : GtpHeader)
    (pkbuf : Bytes) : Prop :=
  OwnSpace s.nextXid ∧ ∃ t i, ogsGtpXactLocalCreate s env gnode hdesc pkbuf = .ok (t, i) ∧
    AnswerFinds t gnode s.nextXid i

section
variable {s t : GtpState} {i : XactIdx} {x y : GtpXact} {op : XactOp} {out : XactOut}
  {xid : UInt32} {type : UInt8} {n : NodeId}

theorem flag_clear_iff (h : xid.toNat ≤ 2 ^ 23) :
    xid &&& gtpMaxXactId = 0 ↔ xid ≠ gtpMaxXactId := by
  constructor
  · rintro hzero rfl
    exact absurd hzero (by decide)
  · intro hne
    have hlt : xid.toNat < 2 ^ 23 := by
      refine Nat.lt_of_le_of_ne h fun heq => hne ?_
      exact UInt32.toNat_inj.mp heq
    apply UInt32.toNat_inj.mp
    apply Nat.eq_of_testBit_eq
    intro k
    have hmask : gtpMaxXactId.toNat = 2 ^ 23 := rfl
    rw [UInt32.toNat_and, Nat.testBit_and, hmask, Nat.testBit_two_pow]
    by_cases hk : 23 = k
    · subst hk
      rw [Nat.testBit_lt_two_pow hlt]
      rfl
    · simp [hk]

theorem nextId_bounds [Ogslib] {g : UInt32} (h : g.toNat ≤ 2 ^ 23) :
    1 ≤ (Ogslib.nextId g gtpMinXactId gtpMaxXactId).toNat ∧
      (Ogslib.nextId g gtpMinXactId gtpMaxXactId).toNat ≤ 2 ^ 23 ∧
      (Ogslib.nextId g gtpMinXactId gtpMaxXactId = gtpMaxXactId ↔ g = 0x7fffff) := by
  by_cases hg : g = gtpMaxXactId
  · subst hg
    rw [Ogslib.nextId_max]
    decide
  · have hlt : g.toNat < 2 ^ 23 := by
      refine Nat.lt_of_le_of_ne h fun heq => hg ?_
      exact UInt32.toNat_inj.mp heq
    have hsucc : (g + 1).toNat = g.toNat + 1 := by
      rw [UInt32.toNat_add]
      have hone : (1 : UInt32).toNat = 1 := rfl
      omega
    rw [Ogslib.nextId_succ _ _ _ hg]
    refine ⟨by omega, by omega, ?_⟩
    rw [← UInt32.toNat_inj, ← UInt32.toNat_inj, hsucc]
    have hmax : gtpMaxXactId.toNat = 2 ^ 23 := rfl
    have hlast : (0x7fffff : UInt32).toNat = 2 ^ 23 - 1 := rfl
    omega

theorem nextXid_bounds [Ogslib] (h : s.gXactId.toNat ≤ 2 ^ 23) :
    s.nextXid.toNat ≤ 2 ^ 23 ∧ (s.nextXid = gtpMaxXactId ↔ s.gXactId = 0x7fffff) :=
  (nextId_bounds h).2

theorem ownSpace_iff (h : xid.toNat ≤ 2 ^ 23) : OwnSpace xid ↔ xid ≠ gtpMaxXactId := by
  rw [← flag_clear_iff h]
  refine ⟨fun hown => hown.1, fun hclear => ⟨hclear, fun type htype => ?_⟩⟩
  have hnot : ∀ type ∈ GtpType.bearerRequests, type ∉ GtpType.initials := by
    decide +kernel
  unfold ogsGtpXactGetStage
  rw [if_neg (hnot type htype), if_pos htype, if_neg (by simp [hclear])]

theorem getStage_final (htype : type ∈ GtpType.finals) :
    ogsGtpXactGetStage type xid = .final := by
  have hnot : ∀ type ∈ GtpType.finals,
      type ∉ GtpType.initials ∧ type ∉ GtpType.bearerRequests := by
    decide +kernel
  obtain ⟨hinitial, hbearer⟩ := hnot type htype
  unfold ogsGtpXactGetStage
  rw [if_neg hinitial, if_neg hbearer, if_pos htype]

theorem sqnToXid_xidToSqn (h : xid.toNat ≤ 2 ^ 23) :
    ogsGtpSqnToXid (ogsGtpXidToSqn xid) = xid :=
  Octets.ntohl_shiftLeft_shiftRight (by omega)

/-- An answer is looked up on the side that the flag tells. -/
theorem answerFinds_iff (h : xid.toNat ≤ 2 ^ 23) : AnswerFinds s n xid i ↔
    s.lookup (if xid &&& gtpMaxXactId ≠ 0 then .remoteOriginator else .localOriginator) n xid =
      some i := by
  unfold AnswerFinds ogsGtpXactFindByXid xactListOf
  rw [sqnToXid_xidToSqn h]
  constructor
  · intro hall
    have hone := hall GtpType.createSessionResponse (by decide)
    rw [getStage_final (by decide)] at hone
    exact Except.ok.inj hone
  · intro hl type htype
    rw [getStage_final htype]
    simp only [Fallible.assertSome_some, Fallible.ok_bind, hl, Fallible.pure_eq_ok]

/-! ## Creating one transaction -/

theorem localCreate_eq [Ogslib] {env : CreateEnv} {hdesc : GtpHeader} {pkbuf : Bytes}
    (hslot : env.slot = some i) (htr : env.tmResponse = true) (hth : env.tmHolding = true)
    (hst : ogsGtpXactGetStage hdesc.type s.nextXid = .initial) :
    ogsGtpXactLocalCreate s env n hdesc pkbuf =
      .ok ({ s with gXactId := s.nextXid }.insert i (.requested s.nextXid n hdesc pkbuf), i) := by
  have hcase : TxCase (.fresh .localOriginator s.nextXid n) hdesc pkbuf
      (.requested s.nextXid n hdesc pkbuf) := .initial rfl hst rfl
  have htx := updateTx_eq_ok.mpr hcase
  unfold GtpState.nextXid at htx
  unfold ogsGtpXactLocalCreate
  simp only [hslot, htr, hth, Fallible.assertSome_some, Fallible.assert_of, Fallible.ok_bind,
    htx, Fallible.pure_eq_ok]
  rfl

/-- The new transaction is found unless an older one of the peer has its identity. -/
theorem lookup_insert_iff [Ogslib] {u : GtpState} (hlinked : Linked s) (hu : u.pool = s.pool)
    (hl : u.xactList = s.xactList) (hi : s.pool i = none) (horg : x.org = .localOriginator) :
    (u.insert i x).lookup .localOriginator x.gnode x.xid = some i ↔
      ∀ j z, s.pool j = some z → z.org = .localOriginator → z.gnode = x.gnode →
        z.xid ≠ x.xid := by
  have hold : ∀ j ∈ s.xactList .localOriginator x.gnode, j ≠ i ∧
      ∃ z, s.pool j = some z ∧ z.org = .localOriginator ∧ z.gnode = x.gnode := by
    intro j hj
    obtain ⟨z, hz, hzorg, hznode⟩ := (hlinked.mem_iff _ _ j).mp hj
    refine ⟨?_, z, hz, hzorg, hznode⟩
    rintro rfl
    rw [hi] at hz
    cases hz
  unfold GtpState.lookup
  rw [GtpState.insert_xactList, if_pos ⟨horg.symm, rfl⟩, hl, List.find?_append]
  have hself : ([i].find? fun k => ((u.insert i x).pool k).any fun z => z.xid = x.xid) =
      some i := by
    simp
  rw [hself]
  constructor
  · intro hfind j z hz hzorg hznode hzxid
    have hmem := (hlinked.mem_iff .localOriginator x.gnode j).mpr ⟨z, hz, hzorg, hznode⟩
    have hji := (hold j hmem).1
    cases hf : (s.xactList .localOriginator x.gnode).find? fun k =>
        ((u.insert i x).pool k).any fun z => z.xid = x.xid with
    | none =>
      have hno := List.find?_eq_none.mp hf j hmem
      simp [hji, hu, hz, hzxid] at hno
    | some k =>
      rw [hf] at hfind
      have hki : k = i := by simpa using hfind
      exact (hold k (List.mem_of_find?_eq_some hf)).1 hki
  · intro hall
    have hnone : (s.xactList .localOriginator x.gnode).find? (fun k =>
        ((u.insert i x).pool k).any fun z => z.xid = x.xid) = none := by
      rw [List.find?_eq_none]
      intro j hj
      obtain ⟨hji, z, hz, hzorg, hznode⟩ := hold j hj
      simpa [hji, hu, hz] using hall j z hz hzorg hznode
    rw [hnone]
    rfl

/-- Creating a transaction is sound if and only if its identity is free. -/
theorem createSound_iff [Ogslib] {env : CreateEnv} {hdesc : GtpHeader} {pkbuf : Bytes}
    (hlinked : Linked s) (hbound : s.gXactId.toNat ≤ 2 ^ 23) (hslot : env.slot = some i)
    (hfree : s.pool i = none) (htr : env.tmResponse = true) (hth : env.tmHolding = true)
    (htype : hdesc.type ∈ GtpType.initials ++ GtpType.bearerRequests) :
    CreateSound s env n hdesc pkbuf ↔ XidFree s n := by
  obtain ⟨hle, hmax⟩ := nextXid_bounds hbound
  have hown := ownSpace_iff hle
  unfold CreateSound XidFree
  by_cases hlast : s.gXactId = 0x7fffff
  · have hnot : ¬OwnSpace s.nextXid := fun h => hown.mp h (hmax.mpr hlast)
    simp [hnot, hlast]
  · have hyes : OwnSpace s.nextXid := hown.mpr fun h => hlast (hmax.mp h)
    have hst : ogsGtpXactGetStage hdesc.type s.nextXid = .initial := by
      rcases List.mem_append.mp htype with h | h
      · unfold ogsGtpXactGetStage
        rw [if_pos h]
      · exact hyes.2 _ h
    have hcreate : ogsGtpXactLocalCreate s env n hdesc pkbuf = _ :=
      localCreate_eq hslot htr hth hst
    have hlookup := lookup_insert_iff (x := .requested s.nextXid n hdesc pkbuf)
      (u := { s with gXactId := s.nextXid }) hlinked rfl rfl hfree rfl
    have hnode : (GtpXact.requested s.nextXid n hdesc pkbuf).gnode = n := rfl
    have hxid : (GtpXact.requested s.nextXid n hdesc pkbuf).xid = s.nextXid := rfl
    rw [hnode, hxid] at hlookup
    simp only [hyes, hcreate, Except.ok.injEq, Prod.mk.injEq, true_and, ne_eq, hlast,
      not_false_iff]
    rw [← hlookup]
    constructor
    · rintro ⟨t, k, ⟨rfl, rfl⟩, hfinds⟩
      have hl := (answerFinds_iff hle).mp hfinds
      rwa [if_neg (by simp [hyes.1])] at hl
    · intro hl
      refine ⟨_, _, ⟨rfl, rfl⟩, (answerFinds_iff hle).mpr ?_⟩
      rwa [if_neg (by simp [hyes.1])]

/-! ## Runs -/

/-- The invariant of runs that only take free identities. -/
structure XidSound (s : GtpState) : Prop where
  linked : Linked s
  bound : s.gXactId.toNat ≤ 2 ^ 23
  unique : UniqueXid .localOriginator s
  own : ∀ i x, s.pool i = some x → x.org = .localOriginator →
    x.xid.toNat ≤ 2 ^ 23 ∧ x.xid ≠ gtpMaxXactId

theorem TableStep.bound [Ogslib] (h : TableStep s t) (hs : s.gXactId.toNat ≤ 2 ^ 23) :
    t.gXactId.toNat ≤ 2 ^ 23 := by
  cases h with
  | set => exact hs
  | insert => exact hs
  | count => exact (nextId_bounds hs).2.1
  | remove => exact hs
  | sendto => exact hs

theorem TableSteps.bound [Ogslib] (h : TableSteps s t) (hs : s.gXactId.toNat ≤ 2 ^ 23) :
    t.gXactId.toNat ≤ 2 ^ 23 := by
  induction h with
  | refl => exact hs
  | tail _ hstep ih => exact hstep.bound ih

theorem XactReachable.bound [Ogslib] (h : XactReachable s) : s.gXactId.toNat ≤ 2 ^ 23 := by
  refine Lts.Reaches.invariant (I := fun s => s.gXactId.toNat ≤ 2 ^ 23) ?_ h (by decide)
  intro u label v hu hstep
  exact hstep.table.bound hu

/-- A local transaction is born with the next identity, in a call that creates it. -/
theorem XactBorn.local [Ogslib] (h : XactBorn s op y) (horg : y.org = .localOriginator) :
    y.xid = s.nextXid ∧ ∃ env hdesc pkbuf, op = .localCreate env y.gnode hdesc pkbuf := by
  cases h with
  | @localCreate env gnode hdesc pkbuf _ hop htx =>
    have hkey := (updateTx_eq_ok.mp htx).key
    have hnode : y.gnode = gnode := hkey.2.1
    rw [hnode]
    exact ⟨hkey.2.2, env, hdesc, pkbuf, hop⟩
  | remoteCreate _ _ _ hrx =>
    rw [(updateRx_eq_ok.mp hrx).key.1] at horg
    cases horg

theorem XidSound.next [Ogslib] (hs : XidSound s) (h : XactStep s (op, out) t)
    (hok : XidOk s (op, out)) : XidSound t := by
  have hfree : ∀ y, XactBorn s op y → y.org = .localOriginator →
      y.xid = s.nextXid ∧ XidFree s y.gnode := by
    intro y hborn horg
    obtain ⟨hxid, env, hdesc, pkbuf, rfl⟩ := hborn.local horg
    exact ⟨hxid, hok⟩
  have hbounds := nextXid_bounds hs.bound
  refine ⟨h.table.linked hs.linked, h.table.bound hs.bound, ?_, ?_⟩
  · refine h.uniqueXid hs.unique ?_
    intro y hborn hyorg i x hx hxorg hnode
    obtain ⟨hxid, -, hother⟩ := hfree y hborn hyorg
    rw [hxid]
    exact hother i x hx hxorg hnode
  · intro i y hy hyorg
    rcases h.evolves i y hy with ⟨x, hx, hxy⟩ | ⟨-, -, hborn⟩
    · obtain ⟨horg, -, hxid⟩ := hxy.key
      rw [hxid]
      exact hs.own i x hx (horg.symm.trans hyorg)
    · obtain ⟨hxid, hlast, -⟩ := hfree y hborn hyorg
      rw [hxid]
      exact ⟨hbounds.1, fun hmax => hlast (hbounds.2.mp hmax)⟩

theorem xidSound_init : XidSound GtpState.init := by
  refine ⟨⟨fun _ _ => List.nodup_nil, by simp [GtpState.init]⟩, by decide, ?_, ?_⟩
  · intro i j x y hx
    simp [GtpState.init] at hx
  · intro i x hx
    simp [GtpState.init] at hx

/-- In runs that only take free identities every live local transaction has an identity in
the node's own space, under which its answer is found. In every reachable state creating a
transaction is sound if and only if its identity is free. -/
theorem localCreate_own_space [Ogslib] :
    (∀ s, Lts.Reaches (Lts.Restrict XidOk XactStep) GtpState.init s →
      ∀ i x, s.pool i = some x → x.org = .localOriginator →
        OwnSpace x.xid ∧ AnswerFinds s x.gnode x.xid i) ∧
    (∀ s, XactReachable s → ∀ env i gnode hdesc pkbuf, env.slot = some i → s.pool i = none →
      env.tmResponse = true → env.tmHolding = true →
      hdesc.type ∈ GtpType.initials ++ GtpType.bearerRequests →
      (CreateSound s env gnode hdesc pkbuf ↔ XidFree s gnode)) := by
  constructor
  · intro s h i x hx horg
    have hsound : XidSound s := by
      refine Lts.Reaches.invariant (I := XidSound) ?_ h xidSound_init
      intro u label v hu hstep
      exact hu.next hstep.2 hstep.1
    obtain ⟨hle, hne⟩ := hsound.own i x hx horg
    have hown := (ownSpace_iff hle).mpr hne
    refine ⟨hown, (answerFinds_iff hle).mpr ?_⟩
    rw [if_neg (by simp [hown.1])]
    exact hsound.unique.lookup hsound.linked hx horg
  · intro s h env i gnode hdesc pkbuf hslot hfree htr hth htype
    exact createSound_iff h.linked h.bound hslot hfree htr hth htype

end

section
attribute [local instance] Ogslib.reference

/-- The first transaction of a node is created soundly. -/
theorem localCreate_own_space_first :
    CreateSound GtpState.init ⟨some 0, true, true⟩ 1
      ⟨GtpType.createBearerRequest, 0, #v[0, 0, 0, 0]⟩ [] := by
  refine (localCreate_own_space.2 GtpState.init .init _ 0 1 _ [] rfl rfl rfl rfl
    (by decide)).mpr ⟨by decide, ?_⟩
  intro i x hx
  cases hx

/-- No transaction is alive. -/
structure Idle (s : GtpState) : Prop where
  pool : s.pool = GtpState.init.pool
  xactList : s.xactList = GtpState.init.xactList

/-- A request that is answered leaves no trace but in the counter. -/
theorem Idle.next {s : GtpState} (hs : XactReachable s) (hidle : Idle s)
    (hbound : s.gXactId.toNat ≤ 2 ^ 23) (hlast : s.gXactId ≠ 0x7fffff) :
    ∃ t, XactReachable t ∧ Idle t ∧ t.gXactId = s.nextXid := by
  obtain ⟨hle, hmax⟩ := nextXid_bounds hbound
  have hown := (ownSpace_iff hle).mpr fun h => hlast (hmax.mp h)
  let request : GtpHeader := ⟨GtpType.createSessionRequest, 0, #v[0, 0, 0, 0]⟩
  let answer : GtpHeader := ⟨GtpType.createSessionResponse, 0, ogsGtpXidToSqn s.nextXid⟩
  have hfinal : answer.type ∈ GtpType.finals := show GtpType.createSessionResponse ∈ _ by decide
  let x := GtpXact.requested s.nextXid 1 request []
  let y := x.accepted answer.type 1
  let created := { s with gXactId := s.nextXid }.insert 0 x
  let answered := (created.set 0 y).sendto 1 []
  have hcreate : XactStep s (.localCreate ⟨some 0, true, true⟩ 1 request [], .created 0)
      created := by
    refine ⟨fun i _ => congrFun hidle.pool i, ?_⟩
    rw [XactOp.exec, localCreate_eq rfl rfl rfl rfl]
    rfl
  have hanswer : XactStep created (.receive ⟨none, true, true⟩ 1 answer true, .received .ok 0)
      answered := by
    have hxid : ogsGtpSqnToXid answer.sqn = s.nextXid := sqnToXid_xidToSqn hle
    have horg : xactListOf answer.type (ogsGtpSqnToXid answer.sqn) = some .localOriginator := by
      rw [hxid, xactListOf, getStage_final hfinal]
      simp [hown.1]
    have hl : created.lookup .localOriginator 1 (ogsGtpSqnToXid answer.sqn) = some 0 := by
      have hlist : created.xactList .localOriginator 1 = [0] := by
        simp only [created]
        rw [GtpState.insert_xactList, if_pos ⟨rfl, rfl⟩, hidle.xactList]
        rfl
      have hpool : created.pool 0 = some x := by simp [created]
      have hx : x.xid = s.nextXid := rfl
      rw [GtpState.lookup, hlist, hxid]
      simp [hpool, hx]
    have hrx : RxCase x answer.type true .ok y [] :=
      .response rfl (getStage_final hfinal) rfl
    refine ⟨fun i hi => (by cases hi), ?_⟩
    rw [XactOp.exec, receive_of_lookup _ horg hl (by simp [created]) hrx]
    rfl
  have hcommit : XactStep answered (.commit 0 true, .done) (answered.remove 0 y) :=
    ⟨trivial, rfl⟩
  refine ⟨answered.remove 0 y, ((hs.snoc hcreate).snoc hanswer).snoc hcommit, ?_, rfl⟩
  constructor
  · funext i
    simp only [answered, created, GtpState.remove_pool, GtpState.sendto_pool, GtpState.set_pool,
      GtpState.insert_pool, hidle.pool]
    by_cases hi : i = 0 <;> simp [hi, GtpState.init]
  · funext org n
    simp only [answered, created, GtpState.remove_xactList, GtpState.sendto_xactList,
      GtpState.set_xactList, GtpState.insert_xactList, hidle.xactList]
    by_cases hkey : org = .localOriginator ∧ n = 1
    · simp [hkey, y, x, GtpXact.accepted, GtpXact.requested, GtpXact.fresh, GtpState.init]
    · simp [hkey, y, x, GtpXact.accepted, GtpXact.requested, GtpXact.fresh]

/-- Requests that are answered one after the other take the counter to any value below the
flag. -/
theorem reachable_counter (k : Nat) (hk : k ≤ 0x7fffff) :
    ∃ s, XactReachable s ∧ Idle s ∧ s.gXactId.toNat = k := by
  induction k with
  | zero => exact ⟨GtpState.init, .init, ⟨rfl, rfl⟩, rfl⟩
  | succ k ih =>
    obtain ⟨s, hs, hidle, hcount⟩ := ih (by omega)
    have hne : ∀ g : UInt32, g.toNat ≠ k → s.gXactId ≠ g := by
      rintro g hg rfl
      exact hg hcount
    have hlast : s.gXactId ≠ 0x7fffff := hne _ (by
      have hval : (0x7fffff : UInt32).toNat = 0x7fffff := rfl
      omega)
    have hmax : s.gXactId ≠ gtpMaxXactId := hne _ (by
      have hval : gtpMaxXactId.toNat = 0x800000 := rfl
      omega)
    obtain ⟨t, ht, hidle', hnext⟩ := hidle.next hs (by omega) hlast
    refine ⟨t, ht, hidle', ?_⟩
    have hsucc : s.nextXid = s.gXactId + 1 := Ogslib.nextId_succ _ _ _ hmax
    have hone : (1 : UInt32).toNat = 1 := rfl
    rw [hnext, hsucc, UInt32.toNat_add, hcount]
    omega

/-- After `0x7fffff` transactions the next identity is the flag: a Create Bearer Request
cannot be created, and a Create Session Request is created, but its answer is looked up
among the peer's transactions. -/
theorem localCreate_flag : ∃ s, XactReachable s ∧ s.nextXid = gtpMaxXactId ∧
    ogsGtpXactLocalCreate s ⟨some 0, true, true⟩ 1
      ⟨GtpType.createBearerRequest, 0, #v[0, 0, 0, 0]⟩ [] = .error (.assert .updateTx) ∧
    ∃ t, ogsGtpXactLocalCreate s ⟨some 0, true, true⟩ 1
        ⟨GtpType.createSessionRequest, 0, #v[0, 0, 0, 0]⟩ [] = .ok (t, 0) ∧
      ogsGtpXactFindByXid t 1 GtpType.createSessionResponse
        (ogsGtpSqnToXid (ogsGtpXidToSqn s.nextXid)) = .ok none := by
  obtain ⟨s, hs, hidle, hcount⟩ := reachable_counter 0x7fffff (Nat.le_refl _)
  have hlast : s.gXactId = 0x7fffff := UInt32.toNat_inj.mp hcount
  have hnext : s.nextXid = gtpMaxXactId := by
    rw [GtpState.nextXid, hlast]
    rfl
  refine ⟨s, hs, hnext, ?_, ?_⟩
  · unfold ogsGtpXactLocalCreate
    have hxid : Ogslib.nextId s.gXactId gtpMinXactId gtpMaxXactId = gtpMaxXactId := hnext
    rw [hxid]
    rfl
  · refine ⟨_, localCreate_eq rfl rfl rfl rfl, ?_⟩
    rw [hnext]
    unfold ogsGtpXactFindByXid xactListOf
    rw [sqnToXid_xidToSqn (by decide), getStage_final (by decide), if_pos (by decide),
      Fallible.assertSome_some, Fallible.ok_bind, GtpState.lookup, GtpState.insert_xactList,
      if_neg (by decide), hidle.xactList]
    rfl

end

end NextEpc

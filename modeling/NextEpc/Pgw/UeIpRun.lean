import NextEpc.Lib.Ownership
import NextEpc.Pgw.UeIp

/-!
# Runs of adding and removing sessions

A session that is added sets only the address fields of its PDN type. What the slot held
before stays in the other field, and is returned with the session as if it were its own.
-/

namespace NextEpc
namespace Pgw
variable {cfg : PgwConfig} {s t : Pgw} {sess : PgwSessId} {apn : Bytes} {pdnType : UInt8}
  {index index4 index6 : Nat} {family : AddressFamily} {ueIp : PgwUeIpId}

/-! ## Steps -/

inductive Op
  | sessAdd (sess : PgwSessId) (apn : Bytes) (pdnType : UInt8) (index4 index6 : Nat)
  | sessRemove (sess : PgwSessId)
  deriving DecidableEq, Repr

/-- A session is added in a free slot, or a session in use is removed. -/
inductive Step (cfg : PgwConfig) : Pgw → Op → Pgw → Prop
  | sessAdd {s t : Pgw} {sess : PgwSessId} {apn : Bytes} {pdnType : UInt8}
    {index4 index6 : Nat} : s.sess.live sess = false →
    s.pgwSessAdd cfg sess apn pdnType index4 index6 = .ok t →
    Step cfg s (.sessAdd sess apn pdnType index4 index6) t
  | sessRemove {s : Pgw} {sess : PgwSessId} : s.sess.live sess = true →
    Step cfg s (.sessRemove sess) (s.pgwSessRemove sess)

/-- The address is given out. -/
def InUse (s : Pgw) (ueIp : PgwUeIpId) : Prop := (s.ueIp ueIp.array).live ueIp.index = true

/-- Addresses are held exclusively, each session has those of its PDN type, and returns each
of them once and to its own pool. -/
structure Exclusive (s : Pgw) : Prop where
  owned : Ownership.Exclusive (fun sess => s.sess.live sess = true) s.held s.InUse
  ipv4 : ∀ sess, s.sess.live sess = true → (s.sess.mem sess).pdnType = pdnTypeIpv4 →
    (s.sess.mem sess).ipv6 = none
  ipv6 : ∀ sess, s.sess.live sess = true → (s.sess.mem sess).pdnType = pdnTypeIpv6 →
    (s.sess.mem sess).ipv4 = none
  own : ∀ sess, s.sess.live sess = true → ∀ ueIp ∈ s.held sess,
    s.ownPool ueIp = ueIp.array ∧ ueIp.index < s.size ueIp.array

/-- The slot of a new session has no address in the field that its PDN type does not set. -/
def Keeps (s : Pgw) : Op → Prop
  | .sessAdd sess _ pdnType _ _ =>
    (pdnType = pdnTypeIpv4 → (s.sess.mem sess).ipv6 = none) ∧
      (pdnType = pdnTypeIpv6 → (s.sess.mem sess).ipv4 = none)
  | .sessRemove _ => True

/-- What holds in every state: the addresses know their arrays, and the fields of every slot
point into arrays of their family. -/
structure WellFormed (cfg : PgwConfig) (s : Pgw) : Prop where
  own : ∀ id i, i < s.size id → ((s.ueIp id).mem i).subnet = id
  ipv4 : ∀ sess ueIp, (s.sess.mem sess).ipv4 = some ueIp → ueIp.index < s.size ueIp.array ∧
    ∃ subnet, cfg.subnets[ueIp.array]? = some subnet ∧ subnet.family = .inet
  ipv6 : ∀ sess ueIp, (s.sess.mem sess).ipv6 = some ueIp → ueIp.index < s.size ueIp.array ∧
    ∃ subnet, cfg.subnets[ueIp.array]? = some subnet ∧ subnet.family = .inet6

/-! ## Allocation -/

theorem findSubnetWhere_family {p : Bytes → Bool} {id : PgwSubnetId}
    (h : s.findSubnetWhere cfg family p = some id) :
    ∃ subnet, cfg.subnets[id]? = some subnet ∧ subnet.family = family := by
  obtain ⟨⟨subnet, id'⟩, hsome, rfl⟩ := Option.map_eq_some_iff.mp h
  have hmem := List.mem_zipIdx_iff_getElem?.mp (List.mem_of_find?_eq_some hsome)
  have hcond := List.find?_some hsome
  simp only [Bool.and_eq_true, beq_iff_eq] at hcond
  exact ⟨subnet, hmem, hcond.1.2⟩

theorem findSubnet_family {id : PgwSubnetId} (h : s.findSubnet cfg family apn = some id) :
    ∃ subnet, cfg.subnets[id]? = some subnet ∧ subnet.family = family := by
  rcases Option.or_eq_some_iff.mp h with h | ⟨-, h⟩
  · exact findSubnetWhere_family h
  · exact findSubnetWhere_family h

/-- The address that is given out was free and comes from a subnet of the family. -/
theorem pgwUeIpAlloc_ok (h : s.pgwUeIpAlloc cfg family apn index = .ok (t, ueIp)) :
    ¬s.InUse ueIp ∧ ueIp.index < s.size ueIp.array ∧
      (∃ subnet, cfg.subnets[ueIp.array]? = some subnet ∧ subnet.family = family) ∧
      t.sess = s.sess ∧ t.size = s.size ∧ (∀ id, (t.ueIp id).mem = (s.ueIp id).mem) ∧
      ∀ other, t.InUse other ↔ other = ueIp ∨ s.InUse other := by
  obtain ⟨id, hid, h⟩ := Fallible.bind_eq_ok.mp h
  obtain ⟨_, hfree, h⟩ := Fallible.bind_eq_ok.mp h
  obtain ⟨hlt, hfree⟩ := Fallible.assert_eq_ok.mp hfree
  cases h
  refine ⟨?_, hlt, findSubnet_family (Fallible.assertSome_eq_ok.mp hid), rfl, rfl, ?_, ?_⟩
  · rw [InUse, hfree]
    exact Bool.false_ne_true
  · intro other
    by_cases hother : other = id
    · subst hother
      simp
    · simp [hother]
  · intro other
    by_cases hother : other.array = id
    · subst hother
      cases other
      simp [InUse]
    · have hne : other ≠ ⟨id, index⟩ := by
        rintro rfl
        exact hother rfl
      simp [InUse, hother, hne]

/-- The addresses that a new session takes: those of its PDN type, from pools of the right
family. -/
structure Takes (cfg : PgwConfig) (s : Pgw) (pdnType : UInt8) (new4 new6 : Option PgwUeIpId) :
    Prop where
  pdnType : pdnType = pdnTypeIpv4 ∧ new4.isSome ∧ new6 = none ∨
    pdnType = pdnTypeIpv6 ∧ new4 = none ∧ new6.isSome ∨
    pdnType = pdnTypeIpv4v6 ∧ new4.isSome ∧ new6.isSome
  free : ∀ ueIp ∈ new4.toList ++ new6.toList, ¬s.InUse ueIp ∧ ueIp.index < s.size ueIp.array
  ipv4 : ∀ ueIp ∈ new4, ∃ subnet, cfg.subnets[ueIp.array]? = some subnet ∧ subnet.family = .inet
  ipv6 : ∀ ueIp ∈ new6, ∃ subnet, cfg.subnets[ueIp.array]? = some subnet ∧ subnet.family = .inet6

/-- The state after a session has taken some addresses. -/
structure Added (s : Pgw) (sess : PgwSessId) (apn : Bytes) (pdnType : UInt8)
    (new4 new6 : Option PgwUeIpId) (t : Pgw) : Prop where
  sess : t.sess = (s.sess.alloc sess).modify sess fun m =>
    ⟨apn, pdnType, new4.or m.ipv4, new6.or m.ipv6⟩
  size : t.size = s.size
  mem : ∀ id, (t.ueIp id).mem = (s.ueIp id).mem
  inUse : ∀ ueIp, t.InUse ueIp ↔ ueIp ∈ new4.toList ++ new6.toList ∨ s.InUse ueIp

theorem modify_modify {α : Type} (p : Pool α) (i : Nat) (f g : α → α) :
    (p.modify i f).modify i g = p.modify i (g ∘ f) := by
  simp [Pool.modify]

theorem pgwSessAdd_ok (h : s.pgwSessAdd cfg sess apn pdnType index4 index6 = .ok t) :
    ∃ new4 new6, Takes cfg s pdnType new4 new6 ∧ Added s sess apn pdnType new4 new6 t := by
  simp only [pgwSessAdd] at h
  split at h
  · rename_i htype
    obtain ⟨⟨s1, ipv4⟩, halloc, h⟩ := Fallible.bind_eq_ok.mp h
    obtain ⟨hfree, hlt, hfamily, hsess, hsize, hmem, hinUse⟩ := pgwUeIpAlloc_ok halloc
    cases h
    refine ⟨some ipv4, none, ⟨Or.inl ⟨htype, rfl, rfl⟩, ?_, ?_, ?_⟩, ⟨?_, hsize, hmem, ?_⟩⟩
    · intro ueIp hueIp
      cases List.mem_singleton.mp hueIp
      exact ⟨hfree, hlt⟩
    · rintro _ ⟨⟩
      exact hfamily
    · rintro _ ⟨⟩
    · simp only [hsess, modify_modify]
      rfl
    · intro ueIp
      simp only [Option.toList_some, Option.toList_none, List.append_nil, List.mem_singleton]
      exact hinUse ueIp
  · split at h
    · rename_i htype
      obtain ⟨⟨s1, ipv6⟩, halloc, h⟩ := Fallible.bind_eq_ok.mp h
      obtain ⟨hfree, hlt, hfamily, hsess, hsize, hmem, hinUse⟩ := pgwUeIpAlloc_ok halloc
      cases h
      refine ⟨none, some ipv6, ⟨Or.inr (Or.inl ⟨htype, rfl, rfl⟩), ?_, ?_, ?_⟩,
        ⟨?_, hsize, hmem, ?_⟩⟩
      · intro ueIp hueIp
        cases List.mem_singleton.mp hueIp
        exact ⟨hfree, hlt⟩
      · rintro _ ⟨⟩
      · rintro _ ⟨⟩
        exact hfamily
      · simp only [hsess, modify_modify]
        rfl
      · intro ueIp
        simp only [Option.toList_some, Option.toList_none, List.nil_append, List.mem_singleton]
        exact hinUse ueIp
    · split at h
      · rename_i htype
        obtain ⟨⟨s1, ipv4⟩, halloc, h⟩ := Fallible.bind_eq_ok.mp h
        obtain ⟨hfree, hlt, hfamily, hsess, hsize, hmem, hinUse⟩ := pgwUeIpAlloc_ok halloc
        obtain ⟨⟨s2, ipv6⟩, halloc6, h⟩ := Fallible.bind_eq_ok.mp h
        obtain ⟨hfree6, hlt6, hfamily6, hsess6, hsize6, hmem6, hinUse6⟩ := pgwUeIpAlloc_ok halloc6
        cases h
        refine ⟨some ipv4, some ipv6, ⟨Or.inr (Or.inr ⟨htype, rfl, rfl⟩), ?_, ?_, ?_⟩,
          ⟨?_, hsize6.trans hsize, fun id => (hmem6 id).trans (hmem id), ?_⟩⟩
        · intro ueIp hueIp
          rcases List.mem_cons.mp hueIp with rfl | hueIp
          · exact ⟨hfree, hlt⟩
          · cases List.mem_singleton.mp hueIp
            refine ⟨fun h => hfree6 ((hinUse ipv6).mpr (Or.inr h)), ?_⟩
            rw [hsize] at hlt6
            exact hlt6
        · rintro _ ⟨⟩
          exact hfamily
        · rintro _ ⟨⟩
          exact hfamily6
        · simp only [hsess6, hsess, modify_modify]
          rfl
        · intro ueIp
          have h6 := hinUse6 ueIp
          rw [hinUse ueIp] at h6
          simp only [Option.toList_some, List.cons_append, List.nil_append, List.mem_cons,
            List.not_mem_nil, or_false]
          refine h6.trans ?_
          tauto
      · cases h

/-! ## Adding a session -/

section
variable {new4 new6 : Option PgwUeIpId}

theorem Added.live_sess (h : Added s sess apn pdnType new4 new6 t) (j : PgwSessId) :
    t.sess.live j = true ↔ j = sess ∨ s.sess.live j = true := by
  rw [h.sess, Pool.live_modify, Pool.live_alloc]
  split <;> simp_all

theorem Added.mem_sess (h : Added s sess apn pdnType new4 new6 t) :
    t.sess.mem sess = ⟨apn, pdnType, new4.or (s.sess.mem sess).ipv4,
      new6.or (s.sess.mem sess).ipv6⟩ := by
  rw [h.sess, Pool.mem_modify, if_pos rfl, Pool.mem_alloc]

theorem Added.mem_other (h : Added s sess apn pdnType new4 new6 t) {j : PgwSessId}
    (hj : j ≠ sess) : t.sess.mem j = s.sess.mem j := by
  rw [h.sess, Pool.mem_modify, if_neg hj, Pool.mem_alloc]

theorem Added.ownPool (h : Added s sess apn pdnType new4 new6 t) :
    t.ownPool = s.ownPool := by
  funext ueIp
  rw [Pgw.ownPool, Pgw.ownPool, h.mem]

/-- With nothing left in the slot, a session holds what it takes. -/
theorem Takes.held (htakes : Takes cfg s pdnType new4 new6)
    (hadded : Added s sess apn pdnType new4 new6 t)
    (hkeeps : s.Keeps (.sessAdd sess apn pdnType index4 index6)) :
    t.held = Function.update s.held sess (new4.toList ++ new6.toList) := by
  funext j
  by_cases hj : j = sess
  · subst hj
    rw [Function.update_self, Pgw.held, hadded.mem_sess]
    rcases htakes.pdnType with ⟨htype, h4, rfl⟩ | ⟨htype, rfl, h6⟩ | ⟨-, h4, h6⟩
    · rw [hkeeps.1 htype, Option.or_of_isSome h4]
      rfl
    · rw [hkeeps.2 htype, Option.or_of_isSome h6]
      rfl
    · rw [Option.or_of_isSome h4, Option.or_of_isSome h6]
  · rw [Function.update_of_ne hj, Pgw.held, Pgw.held, hadded.mem_other hj]

/-- The two addresses come from different arrays. -/
theorem Takes.nodup (htakes : Takes cfg s pdnType new4 new6) :
    (new4.toList ++ new6.toList).Nodup := by
  cases new4 with
  | none => cases new6 <;> simp
  | some ipv4 =>
    cases new6 with
    | none => simp
    | some ipv6 =>
      have hne : ipv4 ≠ ipv6 := by
        rintro rfl
        obtain ⟨subnet, hsubnet, hfamily⟩ := htakes.ipv4 ipv4 rfl
        obtain ⟨subnet', hsubnet', hfamily'⟩ := htakes.ipv6 ipv4 rfl
        rw [hsubnet] at hsubnet'
        cases hsubnet'
        rw [hfamily] at hfamily'
        cases hfamily'
      simp [hne]

/-- A session whose slot is clear takes its addresses, and the others keep theirs. -/
theorem Exclusive.sessAdd (hwf : s.WellFormed cfg) (hs : s.Exclusive)
    (hfree : s.sess.live sess = false) (htakes : Takes cfg s pdnType new4 new6)
    (hadded : Added s sess apn pdnType new4 new6 t)
    (hkeeps : s.Keeps (.sessAdd sess apn pdnType index4 index6)) : t.Exclusive := by
  have hheld := htakes.held hadded hkeeps
  have hlive : (fun j => t.sess.live j = true) = fun j => j = sess ∨ s.sess.live j = true := by
    funext j
    exact propext (hadded.live_sess j)
  have hinUse : t.InUse = fun ueIp => ueIp ∈ new4.toList ++ new6.toList ∨ s.InUse ueIp := by
    funext ueIp
    exact propext (hadded.inUse ueIp)
  constructor
  · rw [hlive, hheld, hinUse]
    apply hs.owned.acquire htakes.nodup
    · exact fun ueIp hueIp => (htakes.free ueIp hueIp).1
    · rw [hfree]
      exact Bool.false_ne_true
  · intro j hj htype
    by_cases hne : j = sess
    · subst hne
      rw [hadded.mem_sess] at htype ⊢
      rcases htakes.pdnType with ⟨_, -, rfl⟩ | ⟨htype', -⟩ | ⟨htype', -⟩
      · exact hkeeps.1 htype
      · exact absurd (htype.symm.trans htype') (by decide)
      · exact absurd (htype.symm.trans htype') (by decide)
    · rw [hadded.mem_other hne] at htype ⊢
      exact hs.ipv4 j (((hadded.live_sess j).mp hj).resolve_left hne) htype
  · intro j hj htype
    by_cases hne : j = sess
    · subst hne
      rw [hadded.mem_sess] at htype ⊢
      rcases htakes.pdnType with ⟨htype', -⟩ | ⟨_, rfl, -⟩ | ⟨htype', -⟩
      · exact absurd (htype.symm.trans htype') (by decide)
      · exact hkeeps.2 htype
      · exact absurd (htype.symm.trans htype') (by decide)
    · rw [hadded.mem_other hne] at htype ⊢
      exact hs.ipv6 j (((hadded.live_sess j).mp hj).resolve_left hne) htype
  · intro j hj ueIp hueIp
    rw [hadded.ownPool, hadded.size]
    rw [hheld] at hueIp
    by_cases hne : j = sess
    · subst hne
      rw [Function.update_self] at hueIp
      have hlt := (htakes.free ueIp hueIp).2
      exact ⟨hwf.own ueIp.array ueIp.index hlt, hlt⟩
    · rw [Function.update_of_ne hne] at hueIp
      exact hs.own j (((hadded.live_sess j).mp hj).resolve_left hne) ueIp hueIp

theorem keeps_of_exclusive (hadded : Added s sess apn pdnType new4 new6 t) (ht : t.Exclusive) :
    s.Keeps (.sessAdd sess apn pdnType index4 index6) := by
  have hlive := (hadded.live_sess sess).mpr (Or.inl rfl)
  have h4 := ht.ipv4 sess hlive
  have h6 := ht.ipv6 sess hlive
  rw [hadded.mem_sess] at h4 h6
  constructor
  · intro htype
    exact (Option.or_eq_none_iff.mp (h4 htype)).2
  · intro htype
    exact (Option.or_eq_none_iff.mp (h6 htype)).2

theorem WellFormed.sessAdd (hwf : s.WellFormed cfg) (htakes : Takes cfg s pdnType new4 new6)
    (hadded : Added s sess apn pdnType new4 new6 t) : t.WellFormed cfg := by
  constructor
  · intro id i
    rw [hadded.size, hadded.mem]
    exact hwf.own id i
  · intro j ueIp hueIp
    rw [hadded.size]
    by_cases hj : j = sess
    · subst hj
      rw [hadded.mem_sess] at hueIp
      rcases Option.or_eq_some_iff.mp hueIp with h4 | ⟨-, hold⟩
      · exact ⟨(htakes.free ueIp (by simp [h4])).2, htakes.ipv4 ueIp h4⟩
      · exact hwf.ipv4 j ueIp hold
    · rw [hadded.mem_other hj] at hueIp
      exact hwf.ipv4 j ueIp hueIp
  · intro j ueIp hueIp
    rw [hadded.size]
    by_cases hj : j = sess
    · subst hj
      rw [hadded.mem_sess] at hueIp
      rcases Option.or_eq_some_iff.mp hueIp with h6 | ⟨-, hold⟩
      · exact ⟨(htakes.free ueIp (by simp [h6])).2, htakes.ipv6 ueIp h6⟩
      · exact hwf.ipv6 j ueIp hold
    · rw [hadded.mem_other hj] at hueIp
      exact hwf.ipv6 j ueIp hueIp

end

/-! ## Removing a session -/

theorem inUse_pgwUeIpFree (hown : s.ownPool ueIp = ueIp.array) (other : PgwUeIpId) :
    (s.pgwUeIpFree ueIp).InUse other ↔ other ≠ ueIp ∧ s.InUse other := by
  rw [pgwUeIpFree, hown]
  by_cases harray : other.array = ueIp.array
  · by_cases hindex : other.index = ueIp.index
    · have heq : other = ueIp := by
        cases other
        cases ueIp
        simp_all
      subst heq
      simp [InUse]
    · have hne : other ≠ ueIp := fun heq => hindex (congrArg PgwUeIpId.index heq)
      simp [InUse, harray, hindex, hne]
  · have hne : other ≠ ueIp := fun heq => harray (congrArg PgwUeIpId.array heq)
    simp [InUse, harray, hne]

/-- Returning addresses touches neither the sessions nor what is in the arrays. -/
theorem foldl_pgwUeIpFree_frame (l : List PgwUeIpId) (s : Pgw) :
    (l.foldl pgwUeIpFree s).sess = s.sess ∧ (l.foldl pgwUeIpFree s).size = s.size ∧
      ∀ id, ((l.foldl pgwUeIpFree s).ueIp id).mem = (s.ueIp id).mem := by
  induction l generalizing s with
  | nil => exact ⟨rfl, rfl, fun _ => rfl⟩
  | cons ueIp l ih =>
    obtain ⟨hsess, hsize, hmem⟩ := ih (s.pgwUeIpFree ueIp)
    refine ⟨hsess, hsize, fun id => (hmem id).trans ?_⟩
    by_cases hid : id = s.ownPool ueIp
    · subst hid
      simp [pgwUeIpFree]
    · simp [pgwUeIpFree, hid]

/-- Each address of the list is returned to its own pool. -/
theorem inUse_foldl_pgwUeIpFree (l : List PgwUeIpId) (s : Pgw)
    (hown : ∀ ueIp ∈ l, s.ownPool ueIp = ueIp.array) (other : PgwUeIpId) :
    (l.foldl pgwUeIpFree s).InUse other ↔ other ∉ l ∧ s.InUse other := by
  induction l generalizing s with
  | nil => simp
  | cons ueIp l ih =>
    have hframe := (foldl_pgwUeIpFree_frame [ueIp] s).2.2
    rw [List.foldl_cons, ih, inUse_pgwUeIpFree (hown ueIp List.mem_cons_self)]
    · simp only [List.mem_cons]
      tauto
    · intro a ha
      have hmem := hframe a.array
      rw [List.foldl_cons, List.foldl_nil] at hmem
      rw [ownPool, hmem]
      exact hown a (List.mem_cons_of_mem _ ha)

theorem WellFormed.sessRemove (hs : s.WellFormed cfg) : (s.pgwSessRemove sess).WellFormed cfg := by
  obtain ⟨hsess, hsize, hmem⟩ := foldl_pgwUeIpFree_frame (s.held sess) s
  constructor
  · intro id i
    simp only [pgwSessRemove, hsize, hmem]
    exact hs.own id i
  · intro j ueIp
    simp only [pgwSessRemove, hsess, hsize, Pool.mem_free]
    exact hs.ipv4 j ueIp
  · intro j ueIp
    simp only [pgwSessRemove, hsess, hsize, Pool.mem_free]
    exact hs.ipv6 j ueIp

theorem Exclusive.sessRemove (hs : s.Exclusive) (huse : s.sess.live sess = true) :
    (s.pgwSessRemove sess).Exclusive := by
  obtain ⟨hsess, hsize, hmem⟩ := foldl_pgwUeIpFree_frame (s.held sess) s
  have hinUse := inUse_foldl_pgwUeIpFree (s.held sess) s fun ueIp hueIp =>
    (hs.own sess huse ueIp hueIp).1
  have hlive : ∀ j, (s.pgwSessRemove sess).sess.live j = true ↔
      j ≠ sess ∧ s.sess.live j = true := by
    intro j
    simp only [pgwSessRemove, hsess, Pool.live_free]
    split <;> simp_all
  have hmemSess : (s.pgwSessRemove sess).sess.mem = s.sess.mem := by
    simp only [pgwSessRemove, hsess, Pool.mem_free]
  have hheld : (s.pgwSessRemove sess).held = s.held := by
    funext j
    rw [held, held, hmemSess]
  have howned := hs.owned.release huse
  constructor
  · rw [hheld]
    convert howned using 1
    · funext j
      exact propext (hlive j)
    · funext ueIp
      exact propext (hinUse ueIp)
  · intro j hj
    rw [hmemSess]
    exact hs.ipv4 j ((hlive j).mp hj).2
  · intro j hj
    rw [hmemSess]
    exact hs.ipv6 j ((hlive j).mp hj).2
  · intro j hj ueIp hueIp
    rw [hheld] at hueIp
    have h := hs.own j ((hlive j).mp hj).2 ueIp hueIp
    refine ⟨?_, ?_⟩
    · rw [ownPool, pgwSessRemove, hmem]
      exact h.1
    · rw [pgwSessRemove, hsize]
      exact h.2

/-! ## Runs -/

theorem WellFormed.step {op : Op} (hs : s.WellFormed cfg) (hstep : Step cfg s op t) :
    t.WellFormed cfg := by
  cases hstep with
  | sessAdd _ hadd =>
    obtain ⟨new4, new6, htakes, hadded⟩ := pgwSessAdd_ok hadd
    exact hs.sessAdd htakes hadded
  | sessRemove _ => exact hs.sessRemove

/-- A step keeps the addresses exclusive exactly if the slot of a new session is clear. -/
theorem exclusive_iff_keeps {op : Op} (hwf : s.WellFormed cfg) (hs : s.Exclusive)
    (hstep : Step cfg s op t) : t.Exclusive ↔ s.Keeps op := by
  cases hstep with
  | sessAdd hfree hadd =>
    obtain ⟨new4, new6, htakes, hadded⟩ := pgwSessAdd_ok hadd
    constructor
    · exact keeps_of_exclusive hadded
    · exact hs.sessAdd hwf hfree htakes hadded
  | sessRemove huse => exact iff_of_true (hs.sessRemove huse) trivial

/-- The addresses that are generated for a subnet point to it. -/
theorem subnet_of_mem_generate {subnet : PgwSubnet} {id : PgwSubnetId} {poolSess n j i : Nat}
    {ueIp : PgwUeIp} (h : ueIp ∈ subnet.generate id poolSess n j i) : ueIp.subnet = id := by
  induction n generalizing j i with
  | zero => cases h
  | succ n ih =>
    rw [PgwSubnet.generate] at h
    split at h
    · split at h
      · exact ih h
      · rcases List.mem_cons.mp h with rfl | h
        · rfl
        · exact ih h
    · cases h

/-- Every address in the array of a subnet points to the subnet. -/
theorem subnet_of_mem_array {arrays : List (List PgwUeIp)}
    (hgenerate : pgwUePoolGenerate cfg = .ok arrays) {id : PgwSubnetId} {ueIp : PgwUeIp}
    (hmem : ueIp ∈ arrays.getD id []) : ueIp.subnet = id := by
  obtain ⟨hlength, hget⟩ := List.forall₂_iff_get.mp (Fallible.forall₂_of_mapM hgenerate)
  by_cases hid : id < arrays.length
  · have h := hget id (hlength.symm ▸ hid) hid
    obtain ⟨maskCount, -, h⟩ := Fallible.bind_eq_ok.mp h
    rw [List.getD_eq_getElem _ _ hid] at hmem
    rw [List.get_eq_getElem, List.get_eq_getElem, List.getElem_zipIdx, Nat.zero_add] at h
    rw [← Except.ok.inj h] at hmem
    exact subnet_of_mem_generate hmem
  · rw [List.getD_eq_default _ _ (Nat.le_of_not_lt hid)] at hmem
    cases hmem

theorem wellFormed_init {arrays : List (List PgwUeIp)}
    (hgenerate : pgwUePoolGenerate cfg = .ok arrays) : (init arrays).WellFormed cfg := by
  constructor
  · intro id i hi
    change ((arrays.getD id []).getD i ⟨Vector.replicate 4 0, id⟩).subnet = id
    have hi : i < (arrays.getD id []).length := hi
    rw [List.getD_eq_getElem _ _ hi]
    exact subnet_of_mem_array hgenerate (List.getElem_mem hi)
  · intro sess ueIp h
    cases h
  · intro sess ueIp h
    cases h

theorem exclusive_init (arrays : List (List PgwUeIp)) : (init arrays).Exclusive := by
  refine ⟨?_, fun _ _ _ => rfl, fun _ _ _ => rfl, fun sess hlive => absurd hlive (by simp [init])⟩
  apply Ownership.Exclusive.of_used_iff
  · intro i j a hi
    simp [init] at hi
  · intro a
    simp [InUse, init]
  · intro i hi
    simp [init] at hi

/-- In every run the addresses are exclusive if and only if each new session gets a slot that
is clear. -/
theorem exclusive_run_iff (cfg : PgwConfig) (arrays : List (List PgwUeIp))
    (hgenerate : pgwUePoolGenerate cfg = .ok arrays) (tr : List (Op × Pgw))
    (htrace : Lts.Trace (Step cfg) (init arrays) tr) :
    (∀ p ∈ tr, p.2.Exclusive) ↔
      Lts.Trace (Lts.Restrict Keeps (Step cfg)) (init arrays) tr := by
  apply Lts.Trace.invariant_iff (I := Exclusive) (J := WellFormed cfg) (C := Keeps)
  · intro s op t hs hstep
    exact hs.step hstep
  · intro s op t hwf hs hstep
    exact exclusive_iff_keeps hwf hs hstep
  · exact htrace
  · exact wellFormed_init hgenerate
  · exact exclusive_init arrays

/-- A subnet 10.45.0.0/29 with the gateway 10.45.0.1 and a subnet cafe::/125. -/
def twoSubnets : PgwConfig where
  subnets :=
    [⟨#v[0x00002d0a, 0, 0, 0], #v[0xf8ffffff, 0, 0, 0], #v[0x01002d0a, 0, 0, 0], [], .inet, 29⟩,
      ⟨#v[0x0000feca, 0, 0, 0], #v[0xffffffff, 0xffffffff, 0xffffffff, 0xf8ffffff],
        #v[0x0000feca, 0, 0, 0x01000000], [], .inet6, 125⟩]
  poolSess := 4

/-- The arrays that are generated for the two subnets. -/
def twoArrays : List (List PgwUeIp) :=
  [[⟨#v[0x02002d0a, 0, 0, 0], 0⟩, ⟨#v[0x03002d0a, 0, 0, 0], 0⟩, ⟨#v[0x04002d0a, 0, 0, 0], 0⟩,
      ⟨#v[0x05002d0a, 0, 0, 0], 0⟩],
    [⟨#v[0x0000feca, 0, 0, 0x02000000], 1⟩, ⟨#v[0x0000feca, 0, 0, 0x03000000], 1⟩,
      ⟨#v[0x0000feca, 0, 0, 0x04000000], 1⟩, ⟨#v[0x0000feca, 0, 0, 0x05000000], 1⟩]]

theorem pgwUePoolGenerate_two : pgwUePoolGenerate twoSubnets = .ok twoArrays := by
  decide +kernel

/-- A session in the slot 1 with the first address of an array. -/
def withSession (s : Pgw) (pdnType : UInt8) (id : PgwSubnetId) (f : PgwSess → PgwSess) : Pgw :=
  { s with
    sess := ((s.sess.alloc 1).modify 1 fun m => { m with apn := [], pdnType := pdnType }).modify
      1 f
    ueIp := Function.update s.ueIp id ((s.ueIp id).alloc 0) }

def ipv4Session : Pgw :=
  (init twoArrays).withSession pdnTypeIpv4 0 fun m => { m with ipv4 := some ⟨0, 0⟩ }

theorem step_ipv4Session :
    Step twoSubnets (init twoArrays) (.sessAdd 1 [] pdnTypeIpv4 0 0) ipv4Session :=
  .sessAdd rfl rfl

/-- A session is added and removed. -/
theorem exclusive_run_remove : ∃ tr : List (Op × Pgw), tr.length = 2 ∧
    ∀ p ∈ tr, p.2.Exclusive := by
  have hremove : Step twoSubnets ipv4Session (.sessRemove 1) (ipv4Session.pgwSessRemove 1) :=
    .sessRemove rfl
  refine ⟨_, rfl, (exclusive_run_iff twoSubnets twoArrays pgwUePoolGenerate_two _
    (.cons step_ipv4Session (.cons hremove (.nil _)))).mpr ?_⟩
  exact .cons ⟨⟨fun _ => rfl, fun _ => rfl⟩, step_ipv4Session⟩
    (.cons ⟨trivial, hremove⟩ (.nil _))

/-- After a session with an IPv4 address a session with an IPv6 address gets the slot: it still
holds the address of the former session, which is free. -/
theorem exclusive_slot_reused : ¬∀ (cfg : PgwConfig) (arrays : List (List PgwUeIp)),
    pgwUePoolGenerate cfg = .ok arrays → ∀ tr : List (Op × Pgw),
      Lts.Trace (Step cfg) (init arrays) tr → ∀ p ∈ tr, p.2.Exclusive := by
  intro hclaim
  have hremove : Step twoSubnets ipv4Session (.sessRemove 1) (ipv4Session.pgwSessRemove 1) :=
    .sessRemove rfl
  have hreuse : Step twoSubnets (ipv4Session.pgwSessRemove 1) (.sessAdd 1 [] pdnTypeIpv6 0 0)
      ((ipv4Session.pgwSessRemove 1).withSession pdnTypeIpv6 1
        fun m => { m with ipv6 := some ⟨1, 0⟩ }) := .sessAdd rfl rfl
  have hlast := hclaim twoSubnets twoArrays pgwUePoolGenerate_two _
    (.cons step_ipv4Session (.cons hremove (.cons hreuse (.nil _)))) _
    (List.mem_cons_of_mem _ (List.mem_cons_of_mem _ List.mem_cons_self))
  have hnone := hlast.ipv6 1 rfl rfl
  cases hnone

end Pgw
end NextEpc

import NextEpc.Lib.Ownership
import NextEpc.Sgw.Indirect

/-!
# Slots that are used again

What a new UE, session, bearer or tunnel has from the one that was in its slot before: the fields
that are not written when it is added. Where nothing of this is left, a tunnel with a TEID to send
to has a node, and every packet buffer belongs to one bearer and is freed once.
-/

namespace NextEpc
namespace SgwContext
variable {s t u : SgwContext} {sgwUe : SgwUeId} {sess : SgwSessId} {bearer b : SgwBearerId}
  {tunnel s1uTunnel s5uTunnel : SgwTunnelId} {out : List SgwOutput} {pkbuf : SgwPkbuf}

/-! ## Packet buffers -/

/-- The numbers of the packets that a slot for bearers has. -/
def numbers (s : SgwContext) (bearer : SgwBearerId) : List Nat :=
  (s.bearers.mem bearer).bufferedPkts.map SgwPkbuf.number

/-- Every packet buffer in use belongs to one bearer in use, and none was freed that was not in
use. -/
structure Owned (s : SgwContext) : Prop where
  exclusive : Ownership.Exclusive (fun bearer => s.bearers.live bearer = true) s.numbers
    fun n => n ∈ s.pkbufs
  nodup : s.pkbufs.Nodup
  lt : ∀ n ∈ s.pkbufs, n < s.received
  fault : s.fault = false

theorem pkbufs_foldl_free (l : List SgwPkbuf) (hnodup : s.pkbufs.Nodup)
    (hl : (l.map SgwPkbuf.number).Nodup) (hused : ∀ p ∈ l, p.number ∈ s.pkbufs) :
    (l.foldl pkbufFree s).pkbufs.Nodup ∧ (l.foldl pkbufFree s).fault = s.fault ∧
      ∀ n, n ∈ (l.foldl pkbufFree s).pkbufs ↔ n ∈ s.pkbufs ∧ n ∉ l.map SgwPkbuf.number := by
  induction l generalizing s with
  | nil => exact ⟨hnodup, rfl, fun n => by simp⟩
  | cons p l ih =>
    rw [List.map_cons, List.nodup_cons] at hl
    have hp := hused p List.mem_cons_self
    have hmem : ∀ n, n ∈ (s.pkbufFree p).pkbufs ↔ n ≠ p.number ∧ n ∈ s.pkbufs :=
      fun n => hnodup.mem_erase_iff
    have hrest : ∀ q ∈ l, q.number ∈ (s.pkbufFree p).pkbufs := by
      intro q hq
      rw [hmem]
      refine ⟨?_, hused q (List.mem_cons_of_mem p hq)⟩
      intro heq
      exact hl.1 (heq ▸ List.mem_map_of_mem hq)
    obtain ⟨hnodup', hfault, hiff⟩ := ih (s := s.pkbufFree p) (hnodup.erase _) hl.2 hrest
    refine ⟨hnodup', ?_, ?_⟩
    · rw [List.foldl_cons, hfault]
      simp [pkbufFree, hp]
    · intro n
      rw [List.foldl_cons, hiff, hmem, List.map_cons, List.mem_cons, not_or]
      tauto

/-- What is not looked at does not matter. -/
theorem Owned.congr (h : s.Owned) (hlive : t.bearers.live = s.bearers.live)
    (hbuffers : t.buffers = s.buffers) (hpkbufs : t.pkbufs = s.pkbufs)
    (hfault : t.fault = s.fault) : t.Owned := by
  have hreceived : t.received = s.received := congrArg Prod.snd hbuffers
  have hnumbers : t.numbers = s.numbers := by
    funext b
    have hb : (t.bearers.mem b).bufferedPkts = (s.bearers.mem b).bufferedPkts :=
      congrFun (congrArg Prod.fst hbuffers) b
    rw [numbers, numbers, hb]
  constructor
  · rw [hlive, hnumbers, hpkbufs]
    exact h.exclusive
  · rw [hpkbufs]
    exact h.nodup
  · rw [hpkbufs, hreceived]
    exact h.lt
  · rw [hfault]
    exact h.fault

/-- A bearer gets a slot in which no packets are left. -/
theorem Owned.bearerAdded (h : s.Owned) (hslots : s.BearerSlots bearer s1uTunnel s5uTunnel)
    (hempty : (s.bearers.mem bearer).bufferedPkts = []) :
    (s.bearerAdded bearer s1uTunnel s5uTunnel sess).Owned := by
  have hbuffers := @buffers_bearerAdded s sess bearer s1uTunnel s5uTunnel
  have hnumbers : ∀ b, (s.bearerAdded bearer s1uTunnel s5uTunnel sess).numbers b = s.numbers b := by
    intro b
    rw [numbers, numbers]
    exact congrArg (List.map SgwPkbuf.number) (congrFun (congrArg Prod.fst hbuffers) b)
  have hnone : s.numbers bearer = [] := by rw [numbers, hempty, List.map_nil]
  have hfree : ¬s.bearers.live bearer = true := by simp [hslots.ofBearer.2]
  have hacquired : Ownership.Exclusive (fun b => b = bearer ∨ s.bearers.live b = true)
      (Function.update s.numbers bearer []) fun n => n ∈ ([] : List Nat) ∨ n ∈ s.pkbufs :=
    h.exclusive.acquire List.nodup_nil (fun _ ha => absurd ha List.not_mem_nil) hfree
  refine ⟨?_, h.nodup, h.lt, h.fault⟩
  apply hacquired.congr
  · exact fun b => live_bearerAdded
  · intro b _
    rw [hnumbers]
    by_cases hb : b = bearer
    · rw [hb, Function.update_self, hnone]
    · rw [Function.update_of_ne hb]
  · intro n
    simp [SgwContext.bearerAdded, linkBearer, tunnelAdded, sgwBearerAlloc]

/-- A bearer is removed, and its packets are freed. -/
theorem Owned.bearerRemove (h : s.Owned) (htree : s.SubTree)
    (hlive : s.bearers.live bearer = true) : (s.sgwBearerRemove bearer).Owned := by
  have hnumbers : ∀ b, (s.sgwBearerRemove bearer).numbers b = s.numbers b := by
    intro b
    rw [numbers, numbers]
    exact congrArg (List.map SgwPkbuf.number)
      (congrFun (congrArg Prod.fst buffers_bearerRemove) b)
  have heq := sgwBearerRemove_eq (htree.bearer_of_mem hlive)
  have hused : ∀ p ∈ (s.bearers.mem bearer).bufferedPkts, p.number ∈ s.pkbufs := by
    intro p hp
    exact (h.exclusive.used_iff p.number).mpr ⟨bearer, hlive, List.mem_map_of_mem hp⟩
  obtain ⟨hnodup, hfault, hiff⟩ := pkbufs_foldl_free (s.bearers.mem bearer).bufferedPkts h.nodup
    (h.exclusive.nodup bearer hlive) hused
  have hpkbufs : (s.sgwBearerRemove bearer).pkbufs =
      ((s.bearers.mem bearer).bufferedPkts.foldl pkbufFree s).pkbufs := by rw [heq]
  constructor
  · apply (h.exclusive.release hlive).congr
    · exact fun b => live_bearerRemove htree hlive
    · exact fun b _ => hnumbers b
    · intro n
      rw [hpkbufs, hiff, and_comm]
      rfl
  · rw [hpkbufs]
    exact hnodup
  · intro n hn
    rw [hpkbufs, hiff] at hn
    have hreceived : (s.sgwBearerRemove bearer).received = s.received :=
      congrArg Prod.snd buffers_bearerRemove
    rw [hreceived]
    exact h.lt n hn.1
  · have hfault' : (s.sgwBearerRemove bearer).fault =
        ((s.bearers.mem bearer).bufferedPkts.foldl pkbufFree s).fault := by rw [heq]
    rw [hfault', hfault, h.fault]

theorem Owned.foldl_bearerRemove (l : List SgwBearerId) (hl : l.Nodup) (h : s.Owned)
    (htree : s.SubTree) (hlive : ∀ b ∈ l, s.bearers.live b = true) :
    (l.foldl sgwBearerRemove s).Owned := by
  induction l generalizing s with
  | nil => exact h
  | cons bearer l ih =>
    have hnodup := List.nodup_cons.mp hl
    have hbearer := hlive bearer List.mem_cons_self
    apply ih hnodup.2 (h.bearerRemove htree hbearer) (htree.bearerRemove hbearer)
    intro b hb
    rw [live_bearerRemove htree hbearer]
    refine ⟨?_, hlive b (List.mem_cons_of_mem _ hb)⟩
    rintro rfl
    exact hnodup.1 hb

theorem Owned.sessRemove (h : s.Owned) (htree : s.SubTree) (hsess : s.sesss.live sess = true) :
    (s.sgwSessRemove sess).Owned := by
  have hunlinked : (s.unlinkSess sess).Owned := h.congr rfl rfl rfl rfl
  have hremoved := hunlinked.foldl_bearerRemove (s.sesss.mem sess).bearerList
    (htree.bearers.nodup sess hsess) (htree.unlinkSess sess)
    fun b hb => ((htree.bearers.mem_iff sess hsess b).mp hb).1
  exact hremoved.congr rfl rfl rfl rfl

theorem Owned.ueRemove (h : s.Owned) (htree : s.Tree) (hue : s.ues.live sgwUe = true) :
    (s.sgwUeRemove sgwUe).Owned := by
  have hloop : ∀ (l : List SgwSessId) (s : SgwContext), l.Nodup → s.Owned → s.Tree →
      (∀ σ ∈ l, s.sesss.live σ = true) → (l.foldl sgwSessRemove s).Owned := by
    intro l
    induction l with
    | nil => exact fun s _ hs _ _ => hs
    | cons sess l ih =>
      intro s hl hs htree hlive
      have hnodup := List.nodup_cons.mp hl
      have hsess := hlive sess List.mem_cons_self
      obtain ⟨htree', _, _, hsesss⟩ := sessRemove_spec htree hsess
      apply ih _ hnodup.2 (hs.sessRemove htree.toSubTree hsess) htree'
      intro σ hσ
      rw [hsesss]
      refine ⟨?_, hlive σ (List.mem_cons_of_mem _ hσ)⟩
      rintro rfl
      exact hnodup.1 hσ
  have hremoved := hloop (s.ues.mem sgwUe).sessList s (htree.sesss.nodup sgwUe hue) h htree
    fun σ hσ => ((htree.sesss.mem_iff sgwUe hue σ).mp hσ).1
  exact hremoved.congr rfl rfl rfl rfl

/-- A packet is freed right after it was received. -/
theorem Owned.discard (h : s.Owned) (hnumber : pkbuf.number = s.received)
    (hlive : t.bearers.live = s.bearers.live) (hbuffers : t.buffers = s.pkbufAlloc.buffers)
    (hpkbufs : t.pkbufs = (s.pkbufAlloc.pkbufFree pkbuf).pkbufs)
    (hfault : t.fault = (s.pkbufAlloc.pkbufFree pkbuf).fault) : t.Owned := by
  have hreceived : t.received = s.received + 1 := congrArg Prod.snd hbuffers
  have hnumbers : t.numbers = s.numbers := by
    funext b
    have hb : (t.bearers.mem b).bufferedPkts = (s.bearers.mem b).bufferedPkts :=
      congrFun (congrArg Prod.fst hbuffers) b
    rw [numbers, numbers, hb]
  have hpkbufs : t.pkbufs = s.pkbufs := by
    rw [hpkbufs]
    simp [pkbufFree, pkbufAlloc, hnumber]
  constructor
  · rw [hlive, hnumbers, hpkbufs]
    exact h.exclusive
  · rw [hpkbufs]
    exact h.nodup
  · rw [hpkbufs, hreceived]
    exact fun n hn => Nat.lt_succ_of_lt (h.lt n hn)
  · rw [hfault]
    simp [pkbufFree, pkbufAlloc, hnumber, h.fault]

theorem pkbufs_flush : (s.flush bearer pkbuf).pkbufs =
      (((s.bearers.mem bearer).bufferedPkts.foldl pkbufFree s).pkbufFree pkbuf).pkbufs ∧
    (s.flush bearer pkbuf).fault =
      (((s.bearers.mem bearer).bufferedPkts.foldl pkbufFree s).pkbufFree pkbuf).fault :=
  ⟨rfl, rfl⟩

theorem live_flush : (s.flush bearer pkbuf).bearers.live = s.bearers.live := by
  simp only [SgwContext.flush, pkbufFree, setBufferedPkts, Pool.live_modify]
  rw [foldl_pkbufFree]

/-- The packets of a bearer are sent and freed. -/
theorem Owned.flush (h : s.Owned) (hnumber : pkbuf.number = s.received)
    (hlive : s.bearers.live bearer = true) : (s.pkbufAlloc.flush bearer pkbuf).Owned := by
  let l := (s.bearers.mem bearer).bufferedPkts
  have hfresh : s.received ∉ s.pkbufs := fun hmem => lt_irrefl _ (h.lt _ hmem)
  have hused : ∀ p ∈ l, p.number ∈ s.pkbufs := by
    intro p hp
    exact (h.exclusive.used_iff p.number).mpr ⟨bearer, hlive, List.mem_map_of_mem hp⟩
  have hout : s.received ∉ l.map SgwPkbuf.number := by
    intro hmem
    obtain ⟨p, hp, heq⟩ := List.mem_map.mp hmem
    exact hfresh (heq ▸ hused p hp)
  have hallocated : s.pkbufAlloc.pkbufs.Nodup := List.nodup_cons.mpr ⟨hfresh, h.nodup⟩
  obtain ⟨hnodup, hfault, hiff⟩ := pkbufs_foldl_free (s := s.pkbufAlloc) l hallocated
    (h.exclusive.nodup bearer hlive) fun p hp => List.mem_cons_of_mem _ (hused p hp)
  have hmem : ∀ n, n ∈ (s.pkbufAlloc.flush bearer pkbuf).pkbufs ↔
      n ∈ s.pkbufs ∧ n ∉ s.numbers bearer := by
    intro n
    rw [pkbufs_flush.1]
    change n ∈ ((l.foldl pkbufFree s.pkbufAlloc).pkbufs.erase pkbuf.number) ↔ _
    rw [hnodup.mem_erase_iff, hiff, hnumber]
    change n ≠ s.received ∧ n ∈ s.received :: s.pkbufs ∧ n ∉ s.numbers bearer ↔ _
    rw [List.mem_cons]
    constructor
    · rintro ⟨hne, hor, hheld⟩
      exact ⟨hor.resolve_left hne, hheld⟩
    · rintro ⟨hmem, hheld⟩
      refine ⟨?_, Or.inr hmem, hheld⟩
      rintro rfl
      exact hfresh hmem
  have hupdated := h.exclusive.update hlive List.nodup_nil fun a ha => absurd ha List.not_mem_nil
  constructor
  · apply hupdated.congr
    · intro b
      rw [live_flush]
      rfl
    · intro b _
      rw [numbers, bufferedPkts_flush]
      by_cases hb : b = bearer
      · rw [if_pos hb, hb, Function.update_self, List.map_nil]
      · rw [if_neg hb, Function.update_of_ne hb]
        rfl
    · intro n
      rw [hmem]
      simp
  · rw [pkbufs_flush.1]
    exact hnodup.erase _
  · intro n hn
    rw [received_flush]
    exact Nat.lt_succ_of_lt (h.lt n ((hmem n).mp hn).1)
  · have hin : pkbuf.number ∈ (l.foldl pkbufFree s.pkbufAlloc).pkbufs := by
      rw [hiff, hnumber]
      exact ⟨List.mem_cons_self, hout⟩
    rw [pkbufs_flush.2]
    change ((l.foldl pkbufFree s.pkbufAlloc).fault ||
      decide (pkbuf.number ∉ (l.foldl pkbufFree s.pkbufAlloc).pkbufs)) = false
    rw [hfault, decide_eq_false (not_not_intro hin)]
    simp [pkbufAlloc, h.fault]

/-- A packet is kept for a bearer. -/
theorem Owned.buffer (h : s.Owned) (hnumber : pkbuf.number = s.received)
    (hlive : s.bearers.live bearer = true) (ue : SgwUeId) :
    ((s.pkbufAlloc.setDlNotiSent ue).setBufferedPkts bearer
      ((s.bearers.mem bearer).bufferedPkts ++ [pkbuf])).Owned := by
  have hfresh : s.received ∉ s.pkbufs := fun hmem => lt_irrefl _ (h.lt _ hmem)
  have hheld : ∀ n ∈ s.numbers bearer, n ∈ s.pkbufs := fun n hn =>
    (h.exclusive.used_iff n).mpr ⟨bearer, hlive, hn⟩
  have hnew : (s.numbers bearer ++ [s.received]).Nodup := by
    rw [List.nodup_append]
    refine ⟨h.exclusive.nodup bearer hlive, List.nodup_singleton _, ?_⟩
    intro n hn m hm
    cases List.mem_singleton.mp hm
    rintro rfl
    exact hfresh (hheld _ hn)
  have hupdated := h.exclusive.update hlive hnew fun n hn => by
    rcases List.mem_append.mp hn with hn | hn
    · exact Or.inl hn
    · cases List.mem_singleton.mp hn
      exact Or.inr hfresh
  constructor
  · apply hupdated.congr
    · exact fun _ => Iff.rfl
    · intro b _
      by_cases hb : b = bearer
      · simp [numbers, setBufferedPkts, setDlNotiSent, setUe, pkbufAlloc, hb, hnumber]
      · simp [numbers, setBufferedPkts, setDlNotiSent, setUe, pkbufAlloc, hb]
    · intro n
      change n ∈ s.received :: s.pkbufs ↔ _
      rw [List.mem_cons, List.mem_append, List.mem_singleton]
      by_cases hn : n ∈ s.numbers bearer
      · simp [hn, hheld n hn]
      · simp [hn]
  · exact List.nodup_cons.mpr ⟨hfresh, h.nodup⟩
  · intro n hn
    rcases List.mem_cons.mp hn with rfl | hn
    · exact Nat.lt_succ_self _
    · exact Nat.lt_succ_of_lt (h.lt n hn)
  · exact h.fault

theorem Owned.downlink (h : s.Owned) (hnumber : pkbuf.number = s.received)
    (hlive : s.bearers.live bearer = true) (hdownlink : Downlink s.pkbufAlloc bearer pkbuf t out) :
    t.Owned := by
  cases hdownlink with
  | forward => exact h.flush hnumber hlive
  | buffer _ ue => exact h.buffer hnumber hlive ue
  | full => exact h.discard hnumber rfl rfl rfl rfl
  | active => exact h.discard hnumber rfl rfl rfl rfl

theorem Owned.gtpu (h : s.Owned) (htree : s.SubTree) (hindex : s.IndexTeid)
    (hnumber : pkbuf.number = s.received) (hgtpu : Gtpu s.pkbufAlloc pkbuf t out) : t.Owned := by
  cases hgtpu with
  | other => exact h.discard hnumber rfl rfl rfl rfl
  | downlink x _ _ hfind _ hdownlink =>
    have hx := ((hindex.find pkbuf.teid).mp hfind).1
    exact h.downlink hnumber (htree.tunnels.live x hx) hdownlink

/-! ## Tunnels and their nodes -/

/-- A tunnel with a TEID to send to has a node to send to. -/
def RemoteHasNode (s : SgwContext) : Prop :=
  ∀ x, s.tunnels.live x = true → (s.tunnels.mem x).remoteTeid ≠ 0 →
    ∃ gnode, (s.tunnels.mem x).gnode = some gnode

theorem RemoteHasNode.congr (h : s.RemoteHasNode) (heq : t.tunnels = s.tunnels) :
    t.RemoteHasNode := by
  rw [RemoteHasNode, heq]
  exact h

theorem RemoteHasNode.shrinks (h : s.RemoteHasNode) (hshrinks : s.Shrinks t) :
    t.RemoteHasNode := by
  intro x hx
  rw [hshrinks.tunnel]
  exact h x (hshrinks.tunnels x hx)

theorem RemoteHasNode.setRemote (h : s.RemoteHasNode) (tunnel : SgwTunnelId) (peer : SgwFTeid) :
    (s.setRemote tunnel peer).RemoteHasNode := by
  intro x hx hteid
  by_cases hxt : x = tunnel
  · subst hxt
    exact ⟨peer.gnode, by simp [SgwContext.setRemote]⟩
  · simp only [SgwContext.setRemote, Pool.mem_modify, if_neg hxt] at hteid ⊢
    exact h x hx hteid

theorem RemoteHasNode.release (h : s.RemoteHasNode) (tunnel : SgwTunnelId) :
    (s.setRemoteTeid tunnel 0).RemoteHasNode := by
  intro x hx hteid
  by_cases hxt : x = tunnel
  · simp [setRemoteTeid, hxt] at hteid
  · simp only [setRemoteTeid, Pool.mem_modify, if_neg hxt] at hteid ⊢
    exact h x hx hteid

/-- A tunnel gets a slot with no TEID to send to. -/
theorem RemoteHasNode.tunnelAdded (h : s.RemoteHasNode) {type : UInt8}
    (hunset : (s.tunnels.mem tunnel).remoteTeid = 0) :
    (s.tunnelAdded tunnel bearer type).RemoteHasNode := by
  intro x hx hteid
  by_cases hxt : x = tunnel
  · subst hxt
    simp [SgwContext.tunnelAdded, SgwTunnelRecord.add, hunset] at hteid
  · rw [mem_tunnelAdded hxt] at hteid ⊢
    exact h x ((live_tunnelAdded.mp hx).resolve_left hxt) hteid

/-- A bearer gets slots with no TEID to send to, or the TEID of its tunnel to the PGW is
written. -/
theorem RemoteHasNode.bearerAdded (h : s.RemoteHasNode) (hne : s5uTunnel ≠ s1uTunnel)
    (hs1u : (s.tunnels.mem s1uTunnel).remoteTeid = 0)
    (hs5u : (s.tunnels.mem s5uTunnel).remoteTeid = 0) :
    (s.bearerAdded bearer s1uTunnel s5uTunnel sess).RemoteHasNode := by
  have halloc : (s.sgwBearerAlloc bearer sess).RemoteHasNode := h.congr rfl
  have hfirst : ((s.sgwBearerAlloc bearer sess).tunnelAdded s1uTunnel bearer
      s1uSgwGtpU).RemoteHasNode := halloc.tunnelAdded hs1u
  have hsecond : (((s.sgwBearerAlloc bearer sess).tunnelAdded s1uTunnel bearer
      s1uSgwGtpU).tunnelAdded s5uTunnel bearer s5s8SgwGtpU).RemoteHasNode := by
    apply hfirst.tunnelAdded
    rw [mem_tunnelAdded hne]
    exact hs5u
  exact hsecond.congr rfl

/-! ## Packets and their bearers -/

/-- The packets of a bearer came in for its tunnel to the PGW. -/
def BufferedFor (s : SgwContext) : Prop :=
  ∀ bearer, s.bearers.live bearer = true → ∀ p ∈ (s.bearers.mem bearer).bufferedPkts,
    ∃ x, s.tunnels.live x = true ∧ (s.tunnels.mem x).bearer = bearer ∧
      (s.tunnels.mem x).interfaceType = s5s8SgwGtpU ∧ (s.tunnels.mem x).localTeid = p.teid

/-- The bearers and their packets are those that were there, and the tunnels are there too. -/
theorem BufferedFor.mono (h : s.BufferedFor)
    (hlive : ∀ b, t.bearers.live b = true → s.bearers.live b = true ∧
      (t.bearers.mem b).bufferedPkts = (s.bearers.mem b).bufferedPkts)
    (htunnels : ∀ x, s.tunnels.live x = true →
      (s.tunnels.mem x).interfaceType = s5s8SgwGtpU →
      t.bearers.live (s.tunnels.mem x).bearer = true → t.tunnels.live x = true ∧
        (t.tunnels.mem x).bearer = (s.tunnels.mem x).bearer ∧
        (t.tunnels.mem x).interfaceType = (s.tunnels.mem x).interfaceType ∧
        (t.tunnels.mem x).localTeid = (s.tunnels.mem x).localTeid) : t.BufferedFor := by
  intro b hb p hp
  obtain ⟨hb', hpkts⟩ := hlive b hb
  rw [hpkts] at hp
  obtain ⟨x, hx, hbearer, htype, hteid⟩ := h b hb' p hp
  obtain ⟨hx', hbearer', htype', hteid'⟩ := htunnels x hx htype (by rwa [hbearer])
  exact ⟨x, hx', hbearer'.trans hbearer, htype'.trans htype, hteid'.trans hteid⟩

theorem BufferedFor.sameShape (h : s.BufferedFor) (hshape : s.SameShape t)
    (hbuffers : t.buffers.1 = s.buffers.1) : t.BufferedFor := by
  apply h.mono
  · intro b hb
    rw [hshape.bearers] at hb
    exact ⟨hb, congrFun hbuffers b⟩
  · intro x hx _ _
    obtain ⟨htype, hteid, hbearer⟩ := hshape.tunnel x
    rw [hshape.tunnels]
    exact ⟨hx, hbearer, htype, hteid⟩

theorem BufferedFor.shrinks (h : s.BufferedFor) (hshrinks : s.Shrinks t) : t.BufferedFor := by
  apply h.mono
  · intro b hb
    exact ⟨hshrinks.bearers b hb, (hshrinks.bearer b).2.2⟩
  · intro x hx htype hb
    rw [hshrinks.tunnel]
    refine ⟨hshrinks.kept x hx hb ?_, rfl, rfl, rfl⟩
    rw [htype]
    decide

theorem BufferedFor.bearerAdded (h : s.BufferedFor)
    (hslots : s.BearerSlots bearer s1uTunnel s5uTunnel)
    (hempty : (s.bearers.mem bearer).bufferedPkts = []) :
    (s.bearerAdded bearer s1uTunnel s5uTunnel sess).BufferedFor := by
  have hmem : ∀ x, s.tunnels.live x = true →
      (s.bearerAdded bearer s1uTunnel s5uTunnel sess).tunnels.mem x = s.tunnels.mem x ∧
      (s.bearerAdded bearer s1uTunnel s5uTunnel sess).tunnels.live x = true := by
    intro x hx
    have hs1u : x ≠ s1uTunnel := by
      rintro rfl
      simp [hslots.ofS1u.2] at hx
    have hs5u : x ≠ s5uTunnel := by
      rintro rfl
      simp [hslots.ofS5u.2] at hx
    simp [SgwContext.bearerAdded, linkBearer, tunnelAdded, sgwBearerAlloc, hs1u, hs5u, hx]
  intro b hb p hp
  by_cases hbb : b = bearer
  · rw [hbb, mem_bearerAdded_self, hempty] at hp
    exact absurd hp List.not_mem_nil
  · rw [mem_bearerAdded hbb] at hp
    obtain ⟨x, hx, hx'⟩ := h b ((live_bearerAdded.mp hb).resolve_left hbb) p hp
    obtain ⟨hrecord, hlive⟩ := hmem x hx
    exact ⟨x, hlive, by rwa [hrecord]⟩

theorem BufferedFor.downlink (h : s.BufferedFor) {x : SgwTunnelId}
    (hx : s.tunnels.live x = true) (hbearer : (s.tunnels.mem x).bearer = bearer)
    (htype : (s.tunnels.mem x).interfaceType = s5s8SgwGtpU)
    (hteid : (s.tunnels.mem x).localTeid = pkbuf.teid)
    (hdownlink : Downlink s.pkbufAlloc bearer pkbuf t out) : t.BufferedFor := by
  have hshape := hdownlink.sameShape
  have htunnels : t.tunnels = s.tunnels := hdownlink.tunnels
  intro b hb p hp
  rw [hshape.bearers] at hb
  have hin : p ∈ (s.bearers.mem b).bufferedPkts ∨ p = pkbuf ∧ b = bearer := by
    have hsub : p ∈ (s.bearers.mem b).bufferedPkts ++ accepted b out := by
      have hfifo : (s.bearers.mem b).bufferedPkts ++ accepted b out = _ := hdownlink.fifo b
      rw [hfifo]
      exact List.mem_append_right _ hp
    rcases List.mem_append.mp hsub with hold | hnew
    · exact Or.inl hold
    · right
      have hdisposed := hdownlink.disposed b
      have hmem := List.mem_append_left (dropped b out) hnew
      rw [hdisposed] at hmem
      split at hmem
      · rename_i hbb
        exact ⟨List.mem_singleton.mp hmem, hbb⟩
      · exact absurd hmem List.not_mem_nil
  rw [htunnels]
  rcases hin with hold | ⟨rfl, rfl⟩
  · exact h b hb p hold
  · exact ⟨x, hx, hbearer, htype, hteid⟩

/-! ## Events that leave packet buffers alone -/

/-- The packet buffers in use, and whether one was freed that was not. -/
def accounts (s : SgwContext) : List Nat × Bool := (s.pkbufs, s.fault)

theorem accounts_forwardCreateSessionRequest {mmeS11Teid : Option UInt32} {pgw : Option NodeId}
    {uli : Bool}
    (h : s.sgwS11ForwardCreateSessionRequest sgwUe sess mmeS11Teid pgw uli = some (t, out)) :
    t.accounts = s.accounts := by
  rw [sgwS11ForwardCreateSessionRequest.eq_def] at h
  split at h
  · split at h
    · simp only [Option.bind_eq_bind, Option.bind_eq_some_iff] at h
      obtain ⟨_, _, _, _, h⟩ := h
      cases h
      rfl
    · cases h
      rfl
  · cases h
    rfl

theorem accounts_createBearerResponse {sgwS1uTeid : Option UInt32} {ebi : Option UInt8}
    {enbS1uTeid : Option SgwFTeid} {uli : Bool} (hs : s.RemoteHasNode)
    (h : s.sgwS11HandleCreateBearerResponse sgwUe sgwS1uTeid ebi enbS1uTeid uli = some t) :
    t.accounts = s.accounts ∧ t.RemoteHasNode := by
  rw [sgwS11HandleCreateBearerResponse.eq_def] at h
  split at h
  · rename_i _ ebi enb
    split at h
    · simp only [Option.bind_eq_bind, Option.bind_eq_some_iff] at h
      obtain ⟨x, _, _, _, _, _, h⟩ := h
      have htunnels : t.tunnels = (s.setRemote x enb).tunnels := by
        rw [← Option.some_inj.mp h]
        rfl
      refine ⟨?_, (hs.setRemote x enb).congr htunnels⟩
      rw [← Option.some_inj.mp h]
      rfl
    · cases h
      exact ⟨rfl, hs⟩
  · cases h
    exact ⟨rfl, hs⟩

theorem accounts_createSessionResponse {ebi : Option UInt8} {pgwS5cTeid : Option UInt32}
    {pgwS5uTeid : Option SgwFTeid} {cause : Bool} (hs : s.RemoteHasNode)
    (h : s.sgwS5cHandleCreateSessionResponse sess ebi pgwS5cTeid pgwS5uTeid cause = some t) :
    t.accounts = s.accounts ∧ t.RemoteHasNode := by
  rw [sgwS5cHandleCreateSessionResponse.eq_def] at h
  split at h
  · rename_i _ _ pgw
    split at h
    · simp only [Option.bind_eq_bind, Option.bind_eq_some_iff] at h
      obtain ⟨_, _, _, _, x, _, h⟩ := h
      have htunnels : t.tunnels = (s.setRemote x pgw).tunnels := by
        rw [← Option.some_inj.mp h]
        rfl
      refine ⟨?_, (hs.setRemote x pgw).congr htunnels⟩
      rw [← Option.some_inj.mp h]
      rfl
    · cases h
      exact ⟨rfl, hs⟩
  · cases h
    exact ⟨rfl, hs⟩

theorem accounts_modify {ebi : Option UInt8} {enbS1uTeid : Option SgwFTeid}
    {memory : Vector UInt8 92} (hs : s.RemoteHasNode)
    (h : Modify s sgwUe ebi enbS1uTeid memory t out) :
    t.accounts = s.accounts ∧ t.RemoteHasNode := by
  cases h with
  | nothing => exact ⟨rfl, hs⟩
  | move _ x _ enb => exact ⟨rfl, (hs.setRemote x enb).congr rfl⟩

theorem accounts_release (hs : s.RemoteHasNode)
    (h : s.sgwS11HandleReleaseAccessBearersRequest sgwUe = some t) :
    t.accounts = s.accounts ∧ t.RemoteHasNode := by
  let kept : SgwContext → SgwContext → Prop := fun u v =>
    v.accounts = u.accounts ∧ (u.RemoteHasNode → v.RemoteHasNode)
  have hrefl : ∀ u, kept u u := fun _ => ⟨rfl, id⟩
  have htrans : ∀ u v w, kept u v → kept v w → kept u w :=
    fun _ _ _ h h' => ⟨h'.1.trans h.1, h'.2 ∘ h.2⟩
  have hloop : kept (s.setUe sgwUe fun m => { m with s1uInactive := true, dlNotiSent := false })
      t := by
    apply Loop.foldlM_rel hrefl htrans _ h
    intro u σ _ v hsess
    apply Loop.foldlM_rel hrefl htrans _ hsess
    intro u b _ v hbearer
    rw [sgwReleaseBearer, Option.bind_eq_bind, Option.bind_eq_some_iff] at hbearer
    obtain ⟨x, _, hbearer⟩ := hbearer
    cases hbearer
    exact ⟨rfl, fun hu => hu.release x⟩
  exact ⟨hloop.1, hloop.2 (hs.congr rfl)⟩

theorem accounts_addIndirectTunnel {type : UInt8} {req : Option (SgwTunnelId × SgwFTeid)}
    (h : s.sgwAddIndirectTunnel bearer type req = some t) :
    t.accounts = s.accounts ∧ t.bearers.live = s.bearers.live := by
  cases req with
  | none =>
    cases h
    exact ⟨rfl, rfl⟩
  | some req =>
    rw [sgwAddIndirectTunnel.eq_def] at h
    simp only [Option.bind_eq_bind, Option.bind_eq_some_iff, sgwTunnelAdd_eq_some,
      Option.some_inj] at h
    obtain ⟨_, ⟨_, _, rfl⟩, rfl⟩ := h
    exact ⟨rfl, rfl⟩

theorem accounts_createIndirect (reqs : List IndirectBearer)
    (h : sgwS11HandleCreateIndirectDataForwardingTunnelRequest sgwUe s reqs = some t) :
    t.accounts = s.accounts ∧ t.bearers.live = s.bearers.live := by
  induction reqs generalizing s with
  | nil =>
    cases h
    exact ⟨rfl, rfl⟩
  | cons req reqs ih =>
    rw [sgwS11HandleCreateIndirectDataForwardingTunnelRequest] at h
    split at h
    · cases h
      exact ⟨rfl, rfl⟩
    · simp only [Option.bind_eq_bind, Option.bind_eq_some_iff] at h
      obtain ⟨_, _, u, hu, v, hv, h⟩ := h
      obtain ⟨hdl, hdl'⟩ := accounts_addIndirectTunnel hu
      obtain ⟨hul, hul'⟩ := accounts_addIndirectTunnel hv
      obtain ⟨hrest, hrest'⟩ := ih h
      exact ⟨hrest.trans (hul.trans hdl), hrest'.trans (hul'.trans hdl')⟩

theorem accounts_deleteIndirect :
    (s.sgwS11HandleDeleteIndirectDataForwardingTunnelRequest sgwUe).accounts = s.accounts := by
  apply Loop.foldl_proj accounts
  intro u σ _
  apply Loop.foldl_proj accounts
  intro u b _
  apply Loop.foldl_proj accounts
  intro u x _
  rw [sgwDeleteIndirectTunnel]
  split
  · rfl
  · rfl

/-! ## New records -/

/-- A Create Session Request adds a session. -/
def AddsSess (s : SgwContext) (sgwUe : SgwUeId) (ebi : Option UInt8) (apn : Option Bytes) : Prop :=
  ∃ e a, ebi = some e ∧ apn = some a ∧ s.sgwSessFindByEbi sgwUe e = none

/-- Nothing is left in the slots of the records that are added, of what is not written then. -/
def SlotUnset (s : SgwContext) (a : Op × List SgwOutput) : Prop :=
  match a.1 with
  | .ueAdd sgwUe _ _ => (s.ues.mem sgwUe).mmeS11Teid = 0 ∧
      (s.ues.mem sgwUe).s1uInactive = false ∧ (s.ues.mem sgwUe).dlNotiSent = false
  | .createSessionRequest sess bearer s1uTunnel s5uTunnel sgwUe ebi apn _ _ _ =>
    s.AddsSess sgwUe ebi apn → (s.sesss.mem sess).pgwS5cTeid = 0 ∧
      (s.bearers.mem bearer).bufferedPkts = [] ∧ (s.tunnels.mem s1uTunnel).remoteTeid = 0 ∧
      (s.tunnels.mem s5uTunnel).remoteTeid = 0
  | .createBearerRequest bearer s1uTunnel _ _ true (some _) =>
    (s.bearers.mem bearer).ebi = 0 ∧ (s.bearers.mem bearer).bufferedPkts = [] ∧
      (s.tunnels.mem s1uTunnel).remoteTeid = 0
  | _ => True

/-- The records that are added are what the same event gives in pools that were never used. -/
def FreshAfter (s : SgwContext) (op : Op) (t : SgwContext) : Prop :=
  match op with
  | .ueAdd sgwUe imsi gnode =>
    t.ues.mem sgwUe = SgwUeRecord.blank.add (UInt32.ofNat sgwUe) imsi gnode
  | .createSessionRequest sess bearer s1uTunnel s5uTunnel sgwUe ebi apn _ _ _ =>
    ∀ e a, ebi = some e → apn = some a → s.sgwSessFindByEbi sgwUe e = none →
      t.sesss.mem sess = { SgwSessRecord.blank.add (sgwS5cIndexToTeid sess) a sgwUe with
        bearerList := [bearer], gnode := (t.sesss.mem sess).gnode } ∧
      t.bearers.mem bearer = { SgwBearerRecord.blank.add sgwUe sess with
        ebi := e, tunnelList := [s1uTunnel, s5uTunnel] } ∧
      t.tunnels.mem s1uTunnel =
        SgwTunnelRecord.blank.add s1uSgwGtpU (UInt32.ofNat s1uTunnel) bearer ∧
      t.tunnels.mem s5uTunnel =
        SgwTunnelRecord.blank.add s5s8SgwGtpU (UInt32.ofNat s5uTunnel) bearer
  | .createBearerRequest bearer s1uTunnel s5uTunnel sess true (some pgw) =>
    t.bearers.mem bearer = { SgwBearerRecord.blank.add (s.sesss.mem sess).sgwUe sess with
        tunnelList := [s1uTunnel, s5uTunnel] } ∧
      t.tunnels.mem s1uTunnel =
        SgwTunnelRecord.blank.add s1uSgwGtpU (UInt32.ofNat s1uTunnel) bearer ∧
      t.tunnels.mem s5uTunnel =
        { SgwTunnelRecord.blank.add s5s8SgwGtpU (UInt32.ofNat s5uTunnel) bearer with
          remoteTeid := pgw.teid, gnode := some pgw.gnode }
  | _ => True

theorem SgwUeRecord.add_eq_iff {m : SgwUeRecord} {teid : UInt32} {imsi : Bytes} {gnode : NodeId} :
    m.add teid imsi gnode = SgwUeRecord.blank.add teid imsi gnode ↔
      m.mmeS11Teid = 0 ∧ m.s1uInactive = false ∧ m.dlNotiSent = false := by
  simp [NextEpc.SgwUeRecord.add, SgwUeRecord.blank]

theorem SgwTunnelRecord.add_eq_iff {m : SgwTunnelRecord} {type : UInt8} {teid : UInt32} :
    m.add type teid bearer = SgwTunnelRecord.blank.add type teid bearer ↔ m.remoteTeid = 0 := by
  simp [NextEpc.SgwTunnelRecord.add, SgwTunnelRecord.blank]

theorem tunnels_bearerAdded (hne : s5uTunnel ≠ s1uTunnel) :
    (s.bearerAdded bearer s1uTunnel s5uTunnel sess).tunnels.mem s1uTunnel =
        (s.tunnels.mem s1uTunnel).add s1uSgwGtpU (UInt32.ofNat s1uTunnel) bearer ∧
      (s.bearerAdded bearer s1uTunnel s5uTunnel sess).tunnels.mem s5uTunnel =
        (s.tunnels.mem s5uTunnel).add s5s8SgwGtpU (UInt32.ofNat s5uTunnel) bearer := by
  simp [bearerAdded, linkBearer, tunnelAdded, sgwBearerAlloc, hne, Ne.symm hne]

/-- The tunnels of a bearer that was just added are found. -/
theorem find_bearerAdded (hne : s5uTunnel ≠ s1uTunnel) :
    (s.bearerAdded bearer s1uTunnel s5uTunnel sess).sgwS5uTunnelInBearer bearer =
      some s5uTunnel := by
  obtain ⟨hs1u, hs5u⟩ := @tunnels_bearerAdded s sess bearer s1uTunnel s5uTunnel hne
  have hskip : s1uSgwGtpU ≠ s5s8SgwGtpU := by decide
  rw [sgwS5uTunnelInBearer, sgwTunnelFindByInterfaceType, mem_bearerAdded_self]
  simp [hs1u, hs5u, SgwTunnelRecord.add, hskip]

theorem records_forwardCreateSessionRequest {mmeS11Teid : Option UInt32} {pgw : Option NodeId}
    {uli : Bool}
    (h : s.sgwS11ForwardCreateSessionRequest sgwUe sess mmeS11Teid pgw uli = some (t, out)) :
    t.bearers = s.bearers ∧ t.tunnels = s.tunnels ∧
      ∀ σ, t.sesss.mem σ = { s.sesss.mem σ with gnode := (t.sesss.mem σ).gnode } := by
  rw [sgwS11ForwardCreateSessionRequest.eq_def] at h
  split at h
  · split at h
    · simp only [Option.bind_eq_bind, Option.bind_eq_some_iff] at h
      obtain ⟨_, _, _, _, h⟩ := h
      cases h
      refine ⟨rfl, rfl, ?_⟩
      intro σ
      by_cases hσ : σ = sess
      · simp [hσ]
      · simp [hσ]
    · cases h
      exact ⟨rfl, rfl, fun _ => rfl⟩
  · cases h
    exact ⟨rfl, rfl, fun _ => rfl⟩

/-- A Create Session Request adds a session and answers, or answers only. -/
theorem createSessionRequest_cases {ebi : Option UInt8} {apn : Option Bytes}
    {mmeS11Teid : Option UInt32} {pgw : Option NodeId} {uli : Bool}
    (h : s.sgwS11HandleCreateSessionRequest sess bearer s1uTunnel s5uTunnel sgwUe ebi apn
      mmeS11Teid pgw uli = some (t, out)) :
    (¬s.AddsSess sgwUe ebi apn ∧ (t = s ∨ ∃ σ,
      s.sgwS11ForwardCreateSessionRequest sgwUe σ mmeS11Teid pgw uli = some (t, out))) ∨
    ∃ e a, ebi = some e ∧ apn = some a ∧ s.sgwSessFindByEbi sgwUe e = none ∧
      (IsPoolIndex sess ∧ s.sesss.live sess = false ∧ e ≠ 0) ∧
      s.BearerSlots bearer s1uTunnel s5uTunnel ∧
      (s.sessAdded sess bearer s1uTunnel s5uTunnel sgwUe a e).sgwS11ForwardCreateSessionRequest
        sgwUe sess mmeS11Teid pgw uli = some (t, out) := by
  rw [sgwS11HandleCreateSessionRequest.eq_def] at h
  split at h
  · cases h
    left
    refine ⟨?_, Or.inl rfl⟩
    rintro ⟨e, a, hebi, _⟩
    cases hebi
  · rename_i e
    split at h
    · rename_i σ hfind
      left
      refine ⟨?_, Or.inr ⟨σ, h⟩⟩
      rintro ⟨e', a, hebi, _, hnone⟩
      cases hebi
      rw [hfind] at hnone
      cases hnone
    · rename_i hnone
      split at h
      · cases h
        left
        refine ⟨?_, Or.inl rfl⟩
        rintro ⟨e', a, _, hapn, _⟩
        cases hapn
      · rename_i a
        rw [Option.bind_eq_bind, Option.bind_eq_some_iff] at h
        obtain ⟨u, hadd, h⟩ := h
        rw [sgwSessAdd_eq_some] at hadd
        obtain ⟨hslot, hslots, rfl⟩ := hadd
        exact Or.inr ⟨e, a, rfl, rfl, hnone, hslot, hslots, h⟩

theorem freshAfter_createSessionRequest {ebi : Option UInt8} {apn : Option Bytes}
    {mmeS11Teid : Option UInt32} {pgw : Option NodeId} {uli : Bool}
    (h : s.sgwS11HandleCreateSessionRequest sess bearer s1uTunnel s5uTunnel sgwUe ebi apn
      mmeS11Teid pgw uli = some (t, out)) :
    s.FreshAfter (.createSessionRequest sess bearer s1uTunnel s5uTunnel sgwUe ebi apn mmeS11Teid
        pgw uli) t ↔
      s.SlotUnset (.createSessionRequest sess bearer s1uTunnel s5uTunnel sgwUe ebi apn mmeS11Teid
        pgw uli, out) := by
  rcases createSessionRequest_cases h with ⟨hadds, -⟩ | ⟨e, a, rfl, rfl, hnone, -, hslots, hforward⟩
  · apply iff_of_true
    · intro e a hebi hapn hnone
      exact absurd ⟨e, a, hebi, hapn, hnone⟩ hadds
    · exact fun hin => absurd hin hadds
  · obtain ⟨hbearers, htunnels, hsesss⟩ := records_forwardCreateSessionRequest hforward
    obtain ⟨hs1u, hs5u⟩ := @tunnels_bearerAdded (s.sgwSessAlloc sess sgwUe a) sess bearer s1uTunnel
      s5uTunnel hslots.distinct
    have hsess : t.sesss.mem sess = { (s.sesss.mem sess).add (sgwS5cIndexToTeid sess) a sgwUe with
        bearerList := [bearer], gnode := (t.sesss.mem sess).gnode } := by
      rw [hsesss sess]
      simp [sessAdded, bearerAdded, linkBearer, tunnelAdded, sgwBearerAlloc, sgwSessAlloc,
        SgwSessRecord.add]
    have hbearer : t.bearers.mem bearer = { s.bearers.mem bearer with
        sgwUe := sgwUe, sess := sess, ebi := e, tunnelList := [s1uTunnel, s5uTunnel] } := by
      rw [hbearers]
      have hown := @mem_bearerAdded_self (s.sgwSessAlloc sess sgwUe a) sess bearer s1uTunnel
        s5uTunnel
      simp only [sessAdded, Pool.mem_modify, if_true, hown]
      simp [sgwSessAlloc, SgwSessRecord.add]
    have hs1u : t.tunnels.mem s1uTunnel =
        (s.tunnels.mem s1uTunnel).add s1uSgwGtpU (UInt32.ofNat s1uTunnel) bearer := by
      rw [htunnels]
      exact hs1u
    have hs5u : t.tunnels.mem s5uTunnel =
        (s.tunnels.mem s5uTunnel).add s5s8SgwGtpU (UInt32.ofNat s5uTunnel) bearer := by
      rw [htunnels]
      exact hs5u
    have hadds : s.AddsSess sgwUe (some e) (some a) := ⟨e, a, rfl, rfl, hnone⟩
    have hfresh : s.FreshAfter (.createSessionRequest sess bearer s1uTunnel s5uTunnel sgwUe
        (some e) (some a) mmeS11Teid pgw uli) t ↔
          t.sesss.mem sess = { SgwSessRecord.blank.add (sgwS5cIndexToTeid sess) a sgwUe with
            bearerList := [bearer], gnode := (t.sesss.mem sess).gnode } ∧
          t.bearers.mem bearer = { SgwBearerRecord.blank.add sgwUe sess with
            ebi := e, tunnelList := [s1uTunnel, s5uTunnel] } ∧
          t.tunnels.mem s1uTunnel =
            SgwTunnelRecord.blank.add s1uSgwGtpU (UInt32.ofNat s1uTunnel) bearer ∧
          t.tunnels.mem s5uTunnel =
            SgwTunnelRecord.blank.add s5s8SgwGtpU (UInt32.ofNat s5uTunnel) bearer := by
      constructor
      · intro hfresh
        exact hfresh e a rfl rfl hnone
      · rintro hfresh _ _ ⟨⟩ ⟨⟩ _
        exact hfresh
    have hunset : s.SlotUnset (.createSessionRequest sess bearer s1uTunnel s5uTunnel sgwUe
        (some e) (some a) mmeS11Teid pgw uli, out) ↔ (s.sesss.mem sess).pgwS5cTeid = 0 ∧
          (s.bearers.mem bearer).bufferedPkts = [] ∧ (s.tunnels.mem s1uTunnel).remoteTeid = 0 ∧
          (s.tunnels.mem s5uTunnel).remoteTeid = 0 :=
      ⟨fun hin => hin hadds, fun hin _ => hin⟩
    rw [hfresh, hunset, hs1u, hs5u, SgwTunnelRecord.add_eq_iff, SgwTunnelRecord.add_eq_iff, hbearer]
    apply and_congr
    · constructor
      · intro heq
        have hteid := congrArg SgwSessRecord.pgwS5cTeid (hsess.symm.trans heq)
        exact hteid
      · intro hzero
        rw [hsess]
        simp [SgwSessRecord.add, SgwSessRecord.blank, hzero]
    · apply and_congr
      · simp [SgwBearerRecord.add, SgwBearerRecord.blank]
      · exact Iff.rfl

theorem createBearerRequest_cases {complete : Bool} {pgwS5uTeid : Option SgwFTeid}
    (h : s.sgwS5cHandleCreateBearerRequest bearer s1uTunnel s5uTunnel sess complete pgwS5uTeid =
      some t) : (t = s ∧ (complete = false ∨ pgwS5uTeid = none)) ∨
    ∃ pgw, complete = true ∧ pgwS5uTeid = some pgw ∧ s.BearerSlots bearer s1uTunnel s5uTunnel ∧
      t = (s.bearerAdded bearer s1uTunnel s5uTunnel sess).setRemote s5uTunnel pgw := by
  rw [sgwS5cHandleCreateBearerRequest.eq_def] at h
  split at h
  · cases h
    exact Or.inl ⟨rfl, Or.inr rfl⟩
  · rename_i pgw
    split at h
    · rename_i hcomplete
      simp only [Option.bind_eq_bind, Option.bind_eq_some_iff, sgwBearerAdd_eq_some] at h
      obtain ⟨u, ⟨hslots, rfl⟩, _, _, x, hx, h⟩ := h
      rw [find_bearerAdded hslots.distinct, Option.some_inj] at hx
      subst hx
      exact Or.inr ⟨pgw, hcomplete, rfl, hslots, (Option.some_inj.mp h).symm⟩
    · rename_i hcomplete
      cases h
      exact Or.inl ⟨rfl, Or.inl (by simpa using hcomplete)⟩

theorem freshAfter_createBearerRequest {complete : Bool} {pgwS5uTeid : Option SgwFTeid}
    (h : s.sgwS5cHandleCreateBearerRequest bearer s1uTunnel s5uTunnel sess complete pgwS5uTeid =
      some t) :
    s.FreshAfter (.createBearerRequest bearer s1uTunnel s5uTunnel sess complete pgwS5uTeid) t ↔
      s.SlotUnset
        (.createBearerRequest bearer s1uTunnel s5uTunnel sess complete pgwS5uTeid, out) := by
  rcases createBearerRequest_cases h with ⟨-, rfl | rfl⟩ | ⟨pgw, rfl, rfl, hslots, rfl⟩
  · exact iff_of_true trivial trivial
  · cases complete
    · exact iff_of_true trivial trivial
    · exact iff_of_true trivial trivial
  · obtain ⟨hs1u, hs5u⟩ := @tunnels_bearerAdded s sess bearer s1uTunnel s5uTunnel hslots.distinct
    have hbearer := @mem_bearerAdded_self s sess bearer s1uTunnel s5uTunnel
    simp only [FreshAfter, SlotUnset, setRemote, Pool.mem_modify, if_neg hslots.distinct.symm,
      if_true, hs1u, hs5u, hbearer, SgwTunnelRecord.add_eq_iff]
    simp [SgwBearerRecord.add, SgwBearerRecord.blank, SgwTunnelRecord.add, SgwTunnelRecord.blank,
      and_assoc]

theorem freshAfter_iff {op : Op} (hstep : Step s (op, out) t) :
    s.FreshAfter op t ↔ s.SlotUnset (op, out) := by
  have heq := hstep.apply
  cases op with
  | ueAdd ue imsi gnode =>
    have hadd := (silent_eq_some.mp heq).1
    rw [sgwUeAdd, Option.ite_none_right_eq_some, Option.some_inj] at hadd
    obtain ⟨_, rfl⟩ := hadd
    simp only [FreshAfter, SlotUnset, Pool.mem_modify, if_true, Pool.mem_alloc,
      SgwUeRecord.add_eq_iff]
  | createSessionRequest => exact freshAfter_createSessionRequest heq
  | createBearerRequest => exact freshAfter_createBearerRequest (silent_eq_some.mp heq).1
  | _ => exact iff_of_true trivial trivial

/-! ## Runs -/

/-- Packet buffers and tunnels are in order. -/
structure Sound (s : SgwContext) : Prop where
  owned : s.Owned
  bufferedFor : s.BufferedFor
  remoteHasNode : s.RemoteHasNode

/-- An event that leaves the tree and the packet buffers alone. -/
theorem Sound.sameShape (h : s.Sound) (hshape : s.SameShape t) (hbuffers : t.buffers = s.buffers)
    (haccounts : t.accounts = s.accounts) (hremote : t.RemoteHasNode) : t.Sound := by
  constructor
  · exact h.owned.congr hshape.bearers hbuffers (congrArg Prod.fst haccounts)
      (congrArg Prod.snd haccounts)
  · exact h.bufferedFor.sameShape hshape (congrArg Prod.fst hbuffers)
  · exact hremote

theorem Sound.shrinks (h : s.Sound) (hshrinks : s.Shrinks t) (howned : t.Owned) : t.Sound :=
  ⟨howned, h.bufferedFor.shrinks hshrinks, h.remoteHasNode.shrinks hshrinks⟩

theorem Sound.createSessionRequest (h : s.Sound) {ebi : Option UInt8} {apn : Option Bytes}
    {mmeS11Teid : Option UInt32} {pgw : Option NodeId} {uli : Bool}
    (hunset : s.SlotUnset (.createSessionRequest sess bearer s1uTunnel s5uTunnel sgwUe ebi apn
      mmeS11Teid pgw uli, out))
    (heq : s.sgwS11HandleCreateSessionRequest sess bearer s1uTunnel s5uTunnel sgwUe ebi apn
      mmeS11Teid pgw uli = some (t, out)) : t.Sound := by
  have hforwarded : ∀ (u : SgwContext) σ, u.Sound →
      u.sgwS11ForwardCreateSessionRequest sgwUe σ mmeS11Teid pgw uli = some (t, out) →
        t.Sound := by
    intro u σ hu hforward
    exact hu.sameShape (sameShape_forwardCreateSessionRequest hforward)
      (buffers_forwardCreateSessionRequest hforward)
      (accounts_forwardCreateSessionRequest hforward)
      (hu.remoteHasNode.congr (records_forwardCreateSessionRequest hforward).2.1)
  rcases createSessionRequest_cases heq with
    ⟨-, rfl | ⟨σ, hforward⟩⟩ | ⟨e, a, rfl, rfl, hnone, -, hslots, hforward⟩
  · exact h
  · exact hforwarded s σ h hforward
  · obtain ⟨-, hempty, hs1u, hs5u⟩ := hunset ⟨e, a, rfl, rfl, hnone⟩
    let allocated := s.sgwSessAlloc sess sgwUe a
    have hslots' : allocated.BearerSlots bearer s1uTunnel s5uTunnel :=
      ⟨hslots.ofBearer, hslots.ofS1u, hslots.ofS5u, hslots.distinct⟩
    have howned : allocated.Owned := h.owned.congr rfl rfl rfl rfl
    have hbuffered : allocated.BufferedFor := h.bufferedFor
    have hremote : allocated.RemoteHasNode := h.remoteHasNode
    have hadded : (allocated.bearerAdded bearer s1uTunnel s5uTunnel sess).Sound :=
      ⟨howned.bearerAdded hslots' hempty, hbuffered.bearerAdded hslots' hempty,
        hremote.bearerAdded hslots.distinct hs1u hs5u⟩
    apply hforwarded _ sess _ hforward
    have hnumbered : ((allocated.bearerAdded bearer s1uTunnel s5uTunnel sess).bearers.modify bearer
        fun m => { m with ebi := e }).live =
          (allocated.bearerAdded bearer s1uTunnel s5uTunnel sess).bearers.live := rfl
    have hbuffers : (s.sessAdded sess bearer s1uTunnel s5uTunnel sgwUe a e).buffers =
        (allocated.bearerAdded bearer s1uTunnel s5uTunnel sess).buffers :=
      @buffers_modify (allocated.bearerAdded bearer s1uTunnel s5uTunnel sess) bearer
        (fun m => { m with ebi := e }) fun _ => rfl
    refine ⟨hadded.owned.congr hnumbered hbuffers rfl rfl, ?_, hadded.remoteHasNode.congr rfl⟩
    apply hadded.bufferedFor.mono
    · intro b hb
      exact ⟨hb, congrFun (congrArg Prod.fst hbuffers) b⟩
    · exact fun x hx _ _ => ⟨hx, rfl, rfl, rfl⟩

theorem Sound.createBearerRequest (h : s.Sound) {complete : Bool} {pgwS5uTeid : Option SgwFTeid}
    (hunset : s.SlotUnset
      (.createBearerRequest bearer s1uTunnel s5uTunnel sess complete pgwS5uTeid, out))
    (heq : s.sgwS5cHandleCreateBearerRequest bearer s1uTunnel s5uTunnel sess complete pgwS5uTeid =
      some t) : t.Sound := by
  rcases createBearerRequest_cases heq with ⟨rfl, -⟩ | ⟨pgw, rfl, rfl, hslots, rfl⟩
  · exact h
  · obtain ⟨-, hempty, hs1u⟩ := hunset
    have hadded : (s.bearerAdded bearer s1uTunnel s5uTunnel sess).Owned :=
      h.owned.bearerAdded hslots hempty
    have hbuffered : (s.bearerAdded bearer s1uTunnel s5uTunnel sess).BufferedFor :=
      h.bufferedFor.bearerAdded hslots hempty
    refine ⟨hadded.congr rfl rfl rfl rfl, ?_, ?_⟩
    · exact hbuffered.sameShape (sameShape_setRemote _ s5uTunnel pgw) rfl
    · intro x hx hteid
      by_cases hs5u : x = s5uTunnel
      · exact ⟨pgw.gnode, by simp [setRemote, hs5u]⟩
      · -- of the other tunnels only the one to the eNB is new, and its TEID is 0
        simp only [setRemote, bearerAdded, linkBearer, sgwBearerAlloc, tunnelAdded,
          Pool.mem_modify, if_neg hs5u, Pool.mem_alloc] at hteid ⊢
        by_cases hx1 : x = s1uTunnel
        · simp [hx1, SgwTunnelRecord.add, hs1u] at hteid
        · simp only [if_neg hx1] at hteid ⊢
          apply h.remoteHasNode x _ hteid
          simpa [setRemote, bearerAdded, linkBearer, sgwBearerAlloc, tunnelAdded, hs5u, hx1]
            using hx

theorem Sound.createIndirect (h : s.Sound) (reqs : List IndirectBearer)
    (heq : sgwS11HandleCreateIndirectDataForwardingTunnelRequest sgwUe s reqs = some t) :
    t.Sound := by
  have hgrants := grants_createIndirect reqs heq
  have hbuffers := buffers_createIndirect reqs heq
  obtain ⟨haccounts, hlive⟩ := accounts_createIndirect reqs heq
  constructor
  · exact h.owned.congr hlive hbuffers (congrArg Prod.fst haccounts) (congrArg Prod.snd haccounts)
  · apply h.bufferedFor.mono
    · intro b hb
      rw [hlive] at hb
      exact ⟨hb, congrFun (congrArg Prod.fst hbuffers) b⟩
    · intro x hx _ _
      rw [hgrants.mem x hx]
      exact ⟨(hgrants.live x).mpr (Or.inl hx), rfl, rfl, rfl⟩
  · intro x hx hteid
    rcases (hgrants.live x).mp hx with hold | ⟨r, hr, rfl⟩
    · rw [hgrants.mem x hold] at hteid ⊢
      exact h.remoteHasNode x hold hteid
    · exact ⟨_, (hgrants.granted r hr).1.peer.2⟩

theorem Sound.step {a : Op × List SgwOutput} (h : s.Sound) (hwell : s.WellFormed)
    (hunset : s.SlotUnset a) (hstep : Step s a t) : t.Sound := by
  obtain ⟨op, out⟩ := a
  have heq := hstep.apply
  cases op with
  | ueAdd ue imsi gnode =>
    have hadd := (silent_eq_some.mp heq).1
    rw [sgwUeAdd, Option.ite_none_right_eq_some, Option.some_inj] at hadd
    obtain ⟨_, rfl⟩ := hadd
    exact ⟨h.owned.congr rfl rfl rfl rfl, h.bufferedFor, h.remoteHasNode⟩
  | ueRemove ue =>
    cases (silent_eq_some.mp heq).1
    have hue := hstep.sgwUe ue rfl
    exact h.shrinks (ueRemove_spec hwell.toTree hue).2 (h.owned.ueRemove hwell.toTree hue)
  | createSessionRequest => exact h.createSessionRequest hunset heq
  | createSessionResponse =>
    have heq := (silent_eq_some.mp heq).1
    obtain ⟨haccounts, hremote⟩ := accounts_createSessionResponse h.remoteHasNode heq
    exact h.sameShape (sameShape_createSessionResponse heq) (buffers_createSessionResponse heq)
      haccounts hremote
  | deleteSessionResponse σ cause =>
    cases (silent_eq_some.mp heq).1
    rw [sgwS5cHandleDeleteSessionResponse]
    split
    · have hsess := hstep.sess σ rfl
      exact h.shrinks (sessRemove_spec hwell.toTree hsess).2.1
        (h.owned.sessRemove hwell.toSubTree hsess)
    · exact h
  | createBearerRequest => exact h.createBearerRequest hunset (silent_eq_some.mp heq).1
  | createBearerResponse =>
    have heq := (silent_eq_some.mp heq).1
    obtain ⟨haccounts, hremote⟩ := accounts_createBearerResponse h.remoteHasNode heq
    exact h.sameShape (sameShape_createBearerResponse heq) (buffers_createBearerResponse heq)
      haccounts hremote
  | deleteBearerResponse ue ebi =>
    have heq := (silent_eq_some.mp heq).1
    rw [sgwS11HandleDeleteBearerResponse.eq_def] at heq
    split at heq
    · cases heq
      exact h
    · rw [Option.bind_eq_bind, Option.bind_eq_some_iff] at heq
      obtain ⟨b, hb, heq⟩ := heq
      cases heq
      have hlive := (hwell.bearer_of_ueEbi (hstep.sgwUe ue rfl) hb).1
      exact h.shrinks (shrinks_bearerRemove hwell.toSubTree hlive)
        (h.owned.bearerRemove hwell.toSubTree hlive)
  | modifyBearerRequest =>
    have hmodify := sgwS11HandleModifyBearerRequest_cases heq
    obtain ⟨haccounts, hremote⟩ := accounts_modify h.remoteHasNode hmodify
    exact h.sameShape hmodify.sameShape hmodify.buffers haccounts hremote
  | releaseAccessBearersRequest =>
    have heq := (silent_eq_some.mp heq).1
    obtain ⟨haccounts, hremote⟩ := accounts_release h.remoteHasNode heq
    exact h.sameShape (sameShape_release heq) (buffers_release heq) haccounts hremote
  | createIndirectTunnelRequest ue reqs => exact h.createIndirect reqs (silent_eq_some.mp heq).1
  | deleteIndirectTunnelRequest ue =>
    cases (silent_eq_some.mp heq).1
    have hpruned := pruned_indirect hwell.toTree (hstep.sgwUe ue rfl)
    apply h.shrinks (hpruned.shrinks fun _ hx => hx.2)
    exact h.owned.congr hpruned.live buffers_deleteIndirect
      (congrArg Prod.fst accounts_deleteIndirect) (congrArg Prod.snd accounts_deleteIndirect)
  | gtpuRecv type teid payload pushed =>
    have hgtpu : Gtpu s.pkbufAlloc ⟨s.received, type, teid, payload⟩ t out :=
      gtpv1URecvCb_cases heq
    refine ⟨h.owned.gtpu hwell.toSubTree hwell.indexTeid rfl hgtpu, ?_, ?_⟩
    · cases hgtpu with
      | other => exact h.bufferedFor
      | downlink x _ _ hfind htype hdownlink =>
        obtain ⟨hx, hteid⟩ := (hwell.indexTeid.find teid).mp hfind
        exact h.bufferedFor.downlink hx rfl htype hteid hdownlink
    · cases hgtpu with
      | other => exact h.remoteHasNode
      | downlink _ _ _ _ _ hdownlink => exact h.remoteHasNode.congr hdownlink.tunnels

theorem sound_initial : initial.Sound := by
  refine ⟨⟨?_, List.nodup_nil, fun n hn => absurd hn List.not_mem_nil, rfl⟩, ?_, ?_⟩
  · apply Ownership.Exclusive.of_used_iff
    · exact fun i j a hi => absurd hi (by simp [initial])
    · intro a
      simp [initial]
    · exact fun i hi => absurd hi (by simp [initial])
  · exact fun b hb => absurd hb (by simp [initial])
  · exact fun x hx => absurd hx (by simp [initial])

/-- An event after which new records are as in pools that were never used. -/
def FreshStep (s : SgwContext) (a : Op × List SgwOutput) (t : SgwContext) : Prop :=
  Step s a t ∧ s.FreshAfter a.1 t

theorem freshStep_iff {a : Op × List SgwOutput} :
    FreshStep s a t ↔ Lts.Restrict SlotUnset Step s a t := by
  constructor
  · rintro ⟨hstep, hfresh⟩
    exact ⟨(freshAfter_iff hstep).mp hfresh, hstep⟩
  · rintro ⟨hunset, hstep⟩
    exact ⟨hstep, (freshAfter_iff hstep).mpr hunset⟩

/-- In a run all new records are as in pools that were never used if and only if nothing is left in
the slots they get. Then a tunnel with a TEID to send to has a node, the packets of a bearer came in
for it, and each packet buffer is freed once. -/
theorem fresh_run (tr : List ((Op × List SgwOutput) × SgwContext)) :
    (Lts.Trace FreshStep initial tr ↔ Lts.Trace (Lts.Restrict SlotUnset Step) initial tr) ∧
      (Lts.Trace (Lts.Restrict SlotUnset Step) initial tr → ∀ p ∈ tr, p.2.Sound) := by
  constructor
  · have hsame : FreshStep = Lts.Restrict SlotUnset Step := by
      funext s a t
      exact propext freshStep_iff
    rw [hsame]
  · intro htrace
    have hboth : ∀ p ∈ tr, p.2.WellFormed ∧ p.2.Sound := by
      apply htrace.invariant (I := fun s => s.WellFormed ∧ s.Sound)
      · rintro s a t ⟨hwell, hsound⟩ ⟨hunset, hstep⟩
        exact ⟨hwell.step hstep, hsound.step hwell hunset hstep⟩
      · exact ⟨wellFormed_initial, sound_initial⟩
    exact fun p hp => (hboth p hp).2

/-- A session that is removed before the PGW has answered, and the next one in the same slots -/
def sessionAgain : SgwContext :=
  (attached.next (.deleteSessionResponse 1 true)).next sessionRequest

/-- What the first session leaves in its slots is what was there before. -/
theorem fresh_run_again : sessionAgain.sesss.live 1 = true ∧ sessionAgain.Sound := by
  have hue : initial.SlotUnset (ueRequest, initial.sent ueRequest) := ⟨rfl, rfl, rfl⟩
  have hsession : (initial.next ueRequest).SlotUnset
      (sessionRequest, (initial.next ueRequest).sent sessionRequest) :=
    fun _ => ⟨rfl, rfl, rfl, rfl⟩
  have hremoved : Step attached (.deleteSessionResponse 1 true,
      attached.sent (.deleteSessionResponse 1 true))
      (attached.next (.deleteSessionResponse 1 true)) := by
    apply step_next (by decide)
    · rintro ue ⟨⟩
    · rintro σ ⟨⟩
      decide
  have hunset : attached.SlotUnset (.deleteSessionResponse 1 true,
      attached.sent (.deleteSessionResponse 1 true)) := trivial
  have hagain : Step (attached.next (.deleteSessionResponse 1 true))
      (sessionRequest, (attached.next (.deleteSessionResponse 1 true)).sent sessionRequest)
      sessionAgain := by
    apply step_next (by decide)
    · rintro ue ⟨⟩
      decide
    · rintro σ ⟨⟩
  have hslots : (attached.next (.deleteSessionResponse 1 true)).SlotUnset
      (sessionRequest, (attached.next (.deleteSessionResponse 1 true)).sent sessionRequest) :=
    fun _ => by decide
  have htrace : Lts.Trace (Lts.Restrict SlotUnset Step) initial _ :=
    .cons ⟨hue, step_ue⟩ (.cons ⟨hsession, step_session⟩
      (.cons ⟨hunset, hremoved⟩ (.cons ⟨hslots, hagain⟩ (.nil _))))
  exact ⟨by decide, (fresh_run _).2 htrace _ (.tail _ (.tail _ (.tail _ (.head _))))⟩

/-- The UE is idle and a packet is kept for its bearer when the session is removed. The next
session gets the same slots, and is removed as well. -/
def packetKept : SgwContext :=
  (attached.next (.releaseAccessBearersRequest 1)).next (.gtpuRecv 255 2 [0] true)

def slotReused : SgwContext :=
  (packetKept.next (.deleteSessionResponse 1 true)).next sessionRequest

theorem reaches_packetKept : Lts.Reaches Step initial packetKept := by
  have hidle : Lts.Reaches Step initial (attached.next (.releaseAccessBearersRequest 1)) := by
    apply reaches_attached.snoc
    apply step_next (by decide)
    · rintro ue ⟨⟩
      decide
    · rintro σ ⟨⟩
  apply hidle.snoc
  apply step_next (by decide)
  · rintro ue ⟨⟩
  · rintro σ ⟨⟩

/-- The packet of the first session is freed twice. -/
theorem fresh_slot_reused : ¬∀ s, Lts.Reaches Step initial s → s.Sound := by
  intro hclaim
  have hremoved : Lts.Reaches Step initial (packetKept.next (.deleteSessionResponse 1 true)) := by
    apply reaches_packetKept.snoc
    apply step_next (by decide)
    · rintro ue ⟨⟩
    · rintro σ ⟨⟩
      decide
  have hreused : Lts.Reaches Step initial slotReused := by
    apply hremoved.snoc
    apply step_next (by decide)
    · rintro ue ⟨⟩
      decide
    · rintro σ ⟨⟩
  have hagain : Lts.Reaches Step initial (slotReused.next (.deleteSessionResponse 1 true)) := by
    apply hreused.snoc
    apply step_next (by decide)
    · rintro ue ⟨⟩
    · rintro σ ⟨⟩
      decide
  have hfault := (hclaim _ hagain).owned.fault
  exact absurd hfault (by decide)

end SgwContext
end NextEpc

import NextEpc.Sgw.TunnelTree

/-!
# Adding to the tree

A bearer is added with its two tunnels, a session with its default bearer. Indirect tunnels are
added to a bearer that has its two tunnels, and taken away without them.
-/

namespace NextEpc
namespace SgwContext
variable {s t u : SgwContext} {sgwUe : SgwUeId} {sess : SgwSessId} {bearer : SgwBearerId}
  {tunnel s1uTunnel s5uTunnel : SgwTunnelId} {interfaceType : UInt8}

/-! ## Tunnels -/

/-- What `sgw_tunnel_add` writes. -/
def tunnelAdded (s : SgwContext) (tunnel : SgwTunnelId) (bearer : SgwBearerId)
    (interfaceType : UInt8) : SgwContext :=
  { s with
    tunnels := (s.tunnels.alloc tunnel).modify tunnel fun m =>
      m.add interfaceType (UInt32.ofNat tunnel) bearer
    bearers := s.bearers.modify bearer fun m => { m with tunnelList := m.tunnelList ++ [tunnel] } }

theorem sgwTunnelAdd_eq_some : s.sgwTunnelAdd tunnel bearer interfaceType = some t ↔
    IsPoolIndex tunnel ∧ s.tunnels.live tunnel = false ∧
      s.tunnelAdded tunnel bearer interfaceType = t := by
  rw [sgwTunnelAdd, Option.ite_none_right_eq_some, and_assoc, Option.some_inj]
  rfl

theorem live_tunnelAdded {x : SgwTunnelId} :
    (s.tunnelAdded tunnel bearer interfaceType).tunnels.live x = true ↔
      x = tunnel ∨ s.tunnels.live x = true := by
  simp [tunnelAdded]

theorem mem_tunnelAdded {x : SgwTunnelId} (hx : x ≠ tunnel) :
    (s.tunnelAdded tunnel bearer interfaceType).tunnels.mem x = s.tunnels.mem x := by
  simp [tunnelAdded, hx]

theorem linked_tunnelAdded (h : s.LinkedTunnels) (hbearer : s.bearers.live bearer = true)
    (hfree : s.tunnels.live tunnel = false) :
    (s.tunnelAdded tunnel bearer interfaceType).LinkedTunnels := by
  apply h.addChild (p := bearer) (c := tunnel) hbearer
  · simp [hfree]
  · exact fun _ => Iff.rfl
  · exact fun x => live_tunnelAdded
  · simp [tunnelAdded, SgwTunnelRecord.add]
  · intro x hx
    rw [mem_tunnelAdded hx]
  · simp [tunnelAdded]
  · intro b hb
    simp [tunnelAdded, hb]

theorem SubTree.tunnelAdded (h : s.SubTree) (hbearer : s.bearers.live bearer = true)
    (hfree : s.tunnels.live tunnel = false) :
    (s.tunnelAdded tunnel bearer interfaceType).SubTree := by
  have hsame : ∀ b, ((s.tunnelAdded tunnel bearer interfaceType).bearers.mem b).sess =
      (s.bearers.mem b).sess ∧
      ((s.tunnelAdded tunnel bearer interfaceType).bearers.mem b).sgwUe =
      (s.bearers.mem b).sgwUe := by
    intro b
    by_cases hb : b = bearer
    · simp [SgwContext.tunnelAdded, hb]
    · simp [SgwContext.tunnelAdded, hb]
  constructor
  · apply h.bearers.congr
    · exact fun _ => Iff.rfl
    · exact fun _ => Iff.rfl
    · exact fun b _ => (hsame b).1
    · exact fun _ _ => rfl
  · exact linked_tunnelAdded h.tunnels hbearer hfree
  · intro b hb
    rw [(hsame b).2, (hsame b).1]
    exact h.owner b hb

theorem IndexTeid.tunnelAdded (h : s.IndexTeid) (hindex : IsPoolIndex tunnel) :
    (s.tunnelAdded tunnel bearer interfaceType).IndexTeid := by
  intro x hx
  by_cases hxt : x = tunnel
  · subst hxt
    exact ⟨hindex, by simp [SgwContext.tunnelAdded, SgwTunnelRecord.add]⟩
  · rw [mem_tunnelAdded hxt]
    exact h x ((live_tunnelAdded.mp hx).resolve_left hxt)

/-- A tunnel of another bearer or another type changes nothing. -/
theorem HasOne.tunnelAdded {b : SgwBearerId} {type : UInt8} (h : s.HasOne b type)
    (hfree : s.tunnels.live tunnel = false) (hother : b ≠ bearer ∨ type ≠ interfaceType) :
    (s.tunnelAdded tunnel bearer interfaceType).HasOne b type := by
  obtain ⟨x, hx, hunique⟩ := h
  have hxt : x ≠ tunnel := by
    rintro rfl
    simp [hfree] at hx
  apply Exists.intro x
  apply And.intro
  · dsimp only
    rw [mem_tunnelAdded hxt, live_tunnelAdded]
    exact ⟨Or.inr hx.1, hx.2⟩
  · intro y hy
    by_cases hyt : y = tunnel
    · subst hyt
      simp only [SgwContext.tunnelAdded, Pool.mem_modify, if_true, SgwTunnelRecord.add] at hy
      rcases hother with hother | hother
      · exact absurd hy.2.1.symm hother
      · exact absurd hy.2.2.symm hother
    · rw [mem_tunnelAdded hyt, live_tunnelAdded] at hy
      exact hunique y ⟨hy.1.resolve_left hyt, hy.2⟩

/-- The first tunnel of a type. -/
theorem hasOne_tunnelAdded (hnone : ∀ x, s.tunnels.live x = true →
    (s.tunnels.mem x).bearer = bearer → (s.tunnels.mem x).interfaceType ≠ interfaceType) :
    (s.tunnelAdded tunnel bearer interfaceType).HasOne bearer interfaceType := by
  apply Exists.intro tunnel
  apply And.intro
  · simp [tunnelAdded, SgwTunnelRecord.add]
  · intro y hy
    by_contra hyt
    rw [mem_tunnelAdded hyt, live_tunnelAdded] at hy
    exact hnone y (hy.1.resolve_left hyt) hy.2.1 hy.2.2

/-! ## Bearers -/

/-- A bearer is at the end of the list of its session. -/
def linkBearer (s : SgwContext) (bearer : SgwBearerId) (sess : SgwSessId) : SgwContext :=
  { s with sesss := s.sesss.modify sess fun m => { m with bearerList := m.bearerList ++ [bearer] } }

/-- What `sgw_bearer_add` writes. -/
def bearerAdded (s : SgwContext) (bearer : SgwBearerId) (s1uTunnel s5uTunnel : SgwTunnelId)
    (sess : SgwSessId) : SgwContext :=
  (((s.sgwBearerAlloc bearer sess).tunnelAdded s1uTunnel bearer s1uSgwGtpU).tunnelAdded s5uTunnel
    bearer s5s8SgwGtpU).linkBearer bearer sess

/-- The slots for a bearer and its tunnels are free. -/
structure BearerSlots (s : SgwContext) (bearer : SgwBearerId) (s1uTunnel s5uTunnel : SgwTunnelId) :
    Prop where
  ofBearer : IsPoolIndex bearer ∧ s.bearers.live bearer = false
  ofS1u : IsPoolIndex s1uTunnel ∧ s.tunnels.live s1uTunnel = false
  ofS5u : IsPoolIndex s5uTunnel ∧ s.tunnels.live s5uTunnel = false
  distinct : s5uTunnel ≠ s1uTunnel

theorem sgwBearerAdd_eq_some : s.sgwBearerAdd bearer s1uTunnel s5uTunnel sess = some t ↔
    s.BearerSlots bearer s1uTunnel s5uTunnel ∧
      s.bearerAdded bearer s1uTunnel s5uTunnel sess = t := by
  have hs5u : ((s.sgwBearerAlloc bearer sess).tunnelAdded s1uTunnel bearer
      s1uSgwGtpU).tunnels.live s5uTunnel = false ↔
        s5uTunnel ≠ s1uTunnel ∧ s.tunnels.live s5uTunnel = false := by
    simp [tunnelAdded, sgwBearerAlloc]
  rw [sgwBearerAdd, Option.ite_none_right_eq_some]
  simp only [Option.bind_eq_bind, Option.bind_eq_some_iff, sgwTunnelAdd_eq_some, Option.some_inj]
  constructor
  · rintro ⟨hbearer, _, ⟨hindex, hfree, rfl⟩, _, ⟨hindex', hfree', rfl⟩, heq⟩
    rw [hs5u] at hfree'
    exact ⟨⟨hbearer, ⟨hindex, hfree⟩, ⟨hindex', hfree'.2⟩, hfree'.1⟩, heq⟩
  · rintro ⟨⟨hbearer, ⟨hindex, hfree⟩, ⟨hindex', hfree'⟩, hdistinct⟩, heq⟩
    exact ⟨hbearer, _, ⟨hindex, hfree, rfl⟩, _, ⟨hindex', hs5u.mpr ⟨hdistinct, hfree'⟩, rfl⟩, heq⟩

theorem mem_bearerAdded {b : SgwBearerId} (hb : b ≠ bearer) :
    (s.bearerAdded bearer s1uTunnel s5uTunnel sess).bearers.mem b = s.bearers.mem b := by
  simp [bearerAdded, linkBearer, tunnelAdded, sgwBearerAlloc, hb]

theorem mem_bearerAdded_self : (s.bearerAdded bearer s1uTunnel s5uTunnel sess).bearers.mem bearer =
    { s.bearers.mem bearer with
      sgwUe := (s.sesss.mem sess).sgwUe
      sess := sess
      tunnelList := [s1uTunnel, s5uTunnel] } := by
  simp [bearerAdded, linkBearer, tunnelAdded, sgwBearerAlloc, SgwBearerRecord.add]

theorem live_bearerAdded {b : SgwBearerId} :
    (s.bearerAdded bearer s1uTunnel s5uTunnel sess).bearers.live b = true ↔
      b = bearer ∨ s.bearers.live b = true := by
  simp [bearerAdded, linkBearer, tunnelAdded, sgwBearerAlloc]

theorem sess_bearerAdded {σ : SgwSessId} :
    ((s.bearerAdded bearer s1uTunnel s5uTunnel sess).sesss.mem σ).sgwUe =
      (s.sesss.mem σ).sgwUe := by
  by_cases hσ : σ = sess
  · simp [bearerAdded, linkBearer, tunnelAdded, sgwBearerAlloc, hσ]
  · simp [bearerAdded, linkBearer, tunnelAdded, sgwBearerAlloc, hσ]

/-- The bearer has no tunnel before it is added. -/
theorem SubTree.no_tunnel (h : s.SubTree) (hfree : s.bearers.live bearer = false) (x : SgwTunnelId)
    (hx : s.tunnels.live x = true) : (s.tunnels.mem x).bearer ≠ bearer := by
  rintro rfl
  have hlive := h.tunnels.live x hx
  rw [hfree] at hlive
  cases hlive

theorem SubTree.bearerAdded (h : s.SubTree) (hsess : s.sesss.live sess = true)
    (hslots : s.BearerSlots bearer s1uTunnel s5uTunnel) :
    (s.bearerAdded bearer s1uTunnel s5uTunnel sess).SubTree := by
  have hfree : ¬s.bearers.live bearer = true := by simp [hslots.ofBearer.2]
  constructor
  · apply h.bearers.addChild (p := sess) (c := bearer) hsess hfree
    · exact fun _ => Iff.rfl
    · exact fun b => live_bearerAdded
    · rw [mem_bearerAdded_self]
    · intro b hb
      rw [mem_bearerAdded hb]
    · simp [SgwContext.bearerAdded, linkBearer, SgwContext.tunnelAdded, sgwBearerAlloc]
    · intro σ hσ
      simp [SgwContext.bearerAdded, linkBearer, SgwContext.tunnelAdded, sgwBearerAlloc, hσ]
  · have halloc : (s.sgwBearerAlloc bearer sess).LinkedTunnels := by
      apply h.tunnels.addParent (p := bearer) hfree
      · simp [sgwBearerAlloc]
      · simp [sgwBearerAlloc, SgwBearerRecord.add]
      · intro b hb
        simp [sgwBearerAlloc, hb]
    have hlive : (s.sgwBearerAlloc bearer sess).bearers.live bearer = true := by
      simp [sgwBearerAlloc]
    have hs1u := @linked_tunnelAdded _ _ s1uTunnel s1uSgwGtpU halloc hlive hslots.ofS1u.2
    apply @linked_tunnelAdded _ _ s5uTunnel s5s8SgwGtpU hs1u hlive
    simp [SgwContext.tunnelAdded, sgwBearerAlloc, hslots.distinct, hslots.ofS5u.2]
  · intro b hb
    rw [sess_bearerAdded]
    by_cases hbb : b = bearer
    · rw [hbb, mem_bearerAdded_self]
    · rw [mem_bearerAdded hbb]
      exact h.owner b ((live_bearerAdded.mp hb).resolve_left hbb)

theorem IndexTeid.bearerAdded (h : s.IndexTeid)
    (hslots : s.BearerSlots bearer s1uTunnel s5uTunnel) :
    (s.bearerAdded bearer s1uTunnel s5uTunnel sess).IndexTeid := by
  have halloc : (s.sgwBearerAlloc bearer sess).IndexTeid := h
  exact (halloc.tunnelAdded hslots.ofS1u.1).tunnelAdded hslots.ofS5u.1

theorem TunnelPair.bearerAdded (h : s.TunnelPair) (htree : s.SubTree)
    (hslots : s.BearerSlots bearer s1uTunnel s5uTunnel) :
    (s.bearerAdded bearer s1uTunnel s5uTunnel sess).TunnelPair := by
  have hfree' : ((s.sgwBearerAlloc bearer sess).tunnelAdded s1uTunnel bearer
      s1uSgwGtpU).tunnels.live s5uTunnel = false := by
    simp [tunnelAdded, sgwBearerAlloc, hslots.distinct, hslots.ofS5u.2]
  intro b hb
  by_cases hbb : b = bearer
  · subst hbb
    have hnone := htree.no_tunnel hslots.ofBearer.2
    have hs1u : ((s.sgwBearerAlloc b sess).tunnelAdded s1uTunnel b s1uSgwGtpU).HasOne b
        s1uSgwGtpU := by
      apply hasOne_tunnelAdded
      intro x hx hbearer
      exact absurd hbearer (hnone x hx)
    have hs5u : ((s.sgwBearerAlloc b sess).tunnelAdded s1uTunnel b s1uSgwGtpU).tunnelAdded
        s5uTunnel b s5s8SgwGtpU |>.HasOne b s5s8SgwGtpU := by
      apply hasOne_tunnelAdded
      intro x hx hbearer
      by_cases hxt : x = s1uTunnel
      · subst hxt
        simp [tunnelAdded, SgwTunnelRecord.add, s1uSgwGtpU, s5s8SgwGtpU]
      · rw [mem_tunnelAdded hxt] at hbearer
        exact absurd hbearer (hnone x ((live_tunnelAdded.mp hx).resolve_left hxt))
    exact ⟨hs1u.tunnelAdded hfree' (Or.inr (by decide)), hs5u⟩
  · obtain ⟨hs1u, hs5u⟩ := h b ((live_bearerAdded.mp hb).resolve_left hbb)
    have hkeep : ∀ type, s.HasOne b type →
        (s.bearerAdded bearer s1uTunnel s5uTunnel sess).HasOne b type := by
      intro type hone
      have halloc : (s.sgwBearerAlloc bearer sess).HasOne b type := hone
      exact (halloc.tunnelAdded hslots.ofS1u.2 (Or.inl hbb)).tunnelAdded hfree' (Or.inl hbb)
    exact ⟨hkeep _ hs1u, hkeep _ hs5u⟩

/-! ## Sessions and UEs -/

/-- What `sgw_sess_add` writes. -/
def sessAdded (s : SgwContext) (sess : SgwSessId) (bearer : SgwBearerId)
    (s1uTunnel s5uTunnel : SgwTunnelId) (sgwUe : SgwUeId) (apn : Bytes) (ebi : UInt8) :
    SgwContext :=
  let t := (s.sgwSessAlloc sess sgwUe apn).bearerAdded bearer s1uTunnel s5uTunnel sess
  { t with
    bearers := t.bearers.modify bearer fun m => { m with ebi := ebi }
    ues := t.ues.modify sgwUe fun m => { m with sessList := m.sessList ++ [sess] } }

variable {apn : Bytes} {ebi : UInt8}

theorem ues_sessAdded : (s.sessAdded sess bearer s1uTunnel s5uTunnel sgwUe apn ebi).ues =
    s.ues.modify sgwUe fun m => { m with sessList := m.sessList ++ [sess] } := rfl

theorem sgwSessAdd_eq_some :
    s.sgwSessAdd sess bearer s1uTunnel s5uTunnel sgwUe apn ebi = some t ↔
      (IsPoolIndex sess ∧ s.sesss.live sess = false ∧ ebi ≠ 0) ∧
        s.BearerSlots bearer s1uTunnel s5uTunnel ∧
        s.sessAdded sess bearer s1uTunnel s5uTunnel sgwUe apn ebi = t := by
  have hslots : (s.sgwSessAlloc sess sgwUe apn).BearerSlots bearer s1uTunnel s5uTunnel ↔
      s.BearerSlots bearer s1uTunnel s5uTunnel := by
    constructor
    · intro h
      exact ⟨h.ofBearer, h.ofS1u, h.ofS5u, h.distinct⟩
    · intro h
      exact ⟨h.ofBearer, h.ofS1u, h.ofS5u, h.distinct⟩
  rw [sgwSessAdd, Option.ite_none_right_eq_some]
  apply and_congr_right
  intro _
  simp only [Option.bind_eq_bind, Option.bind_eq_some_iff, sgwBearerAdd_eq_some, hslots,
    Option.some_inj]
  constructor
  · rintro ⟨_, ⟨hfree, rfl⟩, heq⟩
    exact ⟨hfree, heq⟩
  · rintro ⟨hfree, heq⟩
    exact ⟨_, ⟨hfree, rfl⟩, heq⟩

/-- The tree, the TEIDs that are slots, and the two tunnels of each bearer. -/
structure WellFormed (s : SgwContext) : Prop extends s.Tree where
  indexTeid : s.IndexTeid
  tunnelPair : s.TunnelPair

theorem SameShape.wellFormed (h : s.SameShape t) (hs : s.WellFormed) : t.WellFormed :=
  ⟨h.tree hs.toTree, h.indexTeid hs.indexTeid, h.tunnelPair hs.tunnelPair⟩

theorem Shrinks.wellFormed (h : s.Shrinks t) (htree : t.Tree) (hs : s.WellFormed) :
    t.WellFormed :=
  ⟨htree, h.indexTeid hs.indexTeid, h.tunnelPair hs.tunnelPair⟩

theorem SubTree.sessAlloc (h : s.SubTree) (hfree : s.sesss.live sess = false) :
    (s.sgwSessAlloc sess sgwUe apn).SubTree := by
  have hfree : ¬s.sesss.live sess = true := by simp [hfree]
  constructor
  · apply h.bearers.addParent (p := sess) hfree
    · simp [sgwSessAlloc]
    · simp [sgwSessAlloc, SgwSessRecord.add]
    · intro σ hσ
      simp [sgwSessAlloc, hσ]
  · exact h.tunnels
  · intro b hb
    have hlive := h.bearers.live b hb
    have hne : (s.bearers.mem b).sess ≠ sess := by
      intro heq
      rw [heq] at hlive
      exact hfree hlive
    have howner := h.owner b hb
    simpa [sgwSessAlloc, hne] using howner

theorem WellFormed.bearerAdded (h : s.WellFormed) (hsess : s.sesss.live sess = true)
    (hslots : s.BearerSlots bearer s1uTunnel s5uTunnel) :
    (s.bearerAdded bearer s1uTunnel s5uTunnel sess).WellFormed := by
  refine ⟨⟨h.toSubTree.bearerAdded hsess hslots, ?_⟩, h.indexTeid.bearerAdded hslots,
    h.tunnelPair.bearerAdded h.toSubTree hslots⟩
  apply h.sesss.congr
  · exact fun _ => Iff.rfl
  · exact fun _ => Iff.rfl
  · exact fun σ _ => sess_bearerAdded
  · exact fun _ _ => rfl

theorem WellFormed.sessAdded (h : s.WellFormed) (hue : s.ues.live sgwUe = true)
    (hsess : s.sesss.live sess = false) (hslots : s.BearerSlots bearer s1uTunnel s5uTunnel) :
    (s.sessAdded sess bearer s1uTunnel s5uTunnel sgwUe apn ebi).WellFormed := by
  let allocated := s.sgwSessAlloc sess sgwUe apn
  let added := allocated.bearerAdded bearer s1uTunnel s5uTunnel sess
  let numbered : SgwContext :=
    { added with bearers := added.bearers.modify bearer fun m => { m with ebi := ebi } }
  have hlive : allocated.sesss.live sess = true := by
    simp [allocated, sgwSessAlloc]
  have hslots : allocated.BearerSlots bearer s1uTunnel s5uTunnel :=
    ⟨hslots.ofBearer, hslots.ofS1u, hslots.ofS5u, hslots.distinct⟩
  have halloc : allocated.SubTree := h.toSubTree.sessAlloc hsess
  have hpair : allocated.TunnelPair := h.tunnelPair
  have hindex : allocated.IndexTeid := h.indexTeid
  have hshape : added.SameShape numbered := by
    refine ⟨rfl, fun _ => rfl, rfl, fun _ => ⟨rfl, rfl⟩, rfl, ?_, rfl, fun _ => ⟨rfl, rfl, rfl⟩⟩
    intro b
    by_cases hb : b = bearer
    · simp [numbered, hb]
    · simp [numbered, hb]
  have hsub : numbered.SubTree := hshape.subTree (halloc.bearerAdded hlive hslots)
  refine ⟨⟨⟨hsub.bearers, hsub.tunnels, hsub.owner⟩, ?_⟩,
    hshape.indexTeid (hindex.bearerAdded hslots),
    hshape.tunnelPair (hpair.bearerAdded halloc hslots)⟩
  apply h.sesss.addChild (p := sgwUe) (c := sess) hue
  · simp [hsess]
  · exact fun _ => Iff.rfl
  · intro σ
    change allocated.sesss.live σ = true ↔ _
    simp [allocated, sgwSessAlloc]
  · change (added.sesss.mem sess).sgwUe = sgwUe
    rw [sess_bearerAdded]
    simp [allocated, sgwSessAlloc, SgwSessRecord.add]
  · intro σ hσ
    change (added.sesss.mem σ).sgwUe = _
    rw [sess_bearerAdded]
    simp [allocated, sgwSessAlloc, hσ]
  · rw [ues_sessAdded]
    simp
  · intro ue hother
    rw [ues_sessAdded]
    simp [hother]

theorem WellFormed.ueAdd {imsi : Bytes} {gnode : NodeId} (h : s.WellFormed)
    (hadd : s.sgwUeAdd sgwUe imsi gnode = some t) : t.WellFormed := by
  rw [sgwUeAdd, Option.ite_none_right_eq_some, Option.some_inj] at hadd
  obtain ⟨⟨_, hfree, _⟩, rfl⟩ := hadd
  refine ⟨⟨⟨h.bearers, h.tunnels, h.owner⟩, ?_⟩, h.indexTeid, h.tunnelPair⟩
  apply h.sesss.addParent (p := sgwUe)
  · simp [hfree]
  · simp
  · simp [SgwUeRecord.add]
  · intro ue hother
    simp [hother]

/-! ## Indirect tunnels -/

/-- The tunnels that are removed are those of which a predicate is true. -/
structure Pruned (s t : SgwContext) (p : SgwTunnelId → Prop) : Prop where
  tree : t.Tree
  ues : t.ues = s.ues
  sesss : t.sesss = s.sesss
  live : t.bearers.live = s.bearers.live
  bearer : ∀ bearer, (t.bearers.mem bearer).sess = (s.bearers.mem bearer).sess ∧
    (t.bearers.mem bearer).sgwUe = (s.bearers.mem bearer).sgwUe ∧
    (t.bearers.mem bearer).bufferedPkts = (s.bearers.mem bearer).bufferedPkts
  mem : t.tunnels.mem = s.tunnels.mem
  tunnels : ∀ tunnel, t.tunnels.live tunnel = true ↔ s.tunnels.live tunnel = true ∧ ¬p tunnel

variable {p q : SgwTunnelId → Prop}

theorem Pruned.refl (h : s.Tree) : s.Pruned s fun _ => False :=
  ⟨h, rfl, rfl, rfl, fun _ => ⟨rfl, rfl, rfl⟩, rfl, fun _ => by simp⟩

theorem Pruned.trans (h : s.Pruned t p) (h' : t.Pruned u q) : s.Pruned u fun x => p x ∨ q x := by
  constructor
  · exact h'.tree
  · exact h'.ues.trans h.ues
  · exact h'.sesss.trans h.sesss
  · exact h'.live.trans h.live
  · intro b
    obtain ⟨hsess, hue, hpkts⟩ := h.bearer b
    obtain ⟨hsess', hue', hpkts'⟩ := h'.bearer b
    exact ⟨hsess'.trans hsess, hue'.trans hue, hpkts'.trans hpkts⟩
  · exact h'.mem.trans h.mem
  · intro x
    rw [h'.tunnels, h.tunnels, and_assoc, not_or]

/-- Only tunnels in use are removed. -/
theorem Pruned.congr (h : s.Pruned t p) (hpq : ∀ x, s.tunnels.live x = true → (p x ↔ q x)) :
    s.Pruned t q := by
  refine ⟨h.tree, h.ues, h.sesss, h.live, h.bearer, h.mem, ?_⟩
  intro x
  rw [h.tunnels]
  apply and_congr_right
  intro hx
  rw [hpq x hx]

/-- Each round of a loop removes some tunnels. -/
theorem Pruned.foldl {f : SgwContext → Nat → SgwContext} {r : Nat → SgwTunnelId → Prop}
    (l : List Nat) (h : s.Pruned t q)
    (hf : ∀ u q, s.Pruned u q → ∀ i ∈ l, u.Pruned (f u i) (r i)) :
    s.Pruned (l.foldl f t) fun x => q x ∨ ∃ i ∈ l, r i x := by
  induction l generalizing t q with
  | nil => simpa using h
  | cons i l ih =>
    have hi := h.trans (hf t q h i List.mem_cons_self)
    have hl := ih hi fun u q hu j hj => hf u q hu j (List.mem_cons_of_mem _ hj)
    apply hl.congr
    intro x _
    simp [or_assoc]

theorem pruned_tunnelRemove (h : s.Tree) (tunnel : SgwTunnelId) :
    s.Pruned (s.sgwTunnelRemove tunnel) fun x => x = tunnel := by
  have hlive : ∀ x, (s.sgwTunnelRemove tunnel).tunnels.live x = true ↔
      x ≠ tunnel ∧ s.tunnels.live x = true := by
    intro x
    simp only [sgwTunnelRemove, Pool.live_free]
    split <;> simp [*]
  have hbearer : ∀ b, ((s.sgwTunnelRemove tunnel).bearers.mem b).sess = (s.bearers.mem b).sess ∧
      ((s.sgwTunnelRemove tunnel).bearers.mem b).sgwUe = (s.bearers.mem b).sgwUe ∧
      ((s.sgwTunnelRemove tunnel).bearers.mem b).bufferedPkts =
        (s.bearers.mem b).bufferedPkts := by
    intro b
    by_cases hb : b = (s.tunnels.mem tunnel).bearer
    · simp [sgwTunnelRemove, hb]
    · simp [sgwTunnelRemove, hb]
  refine ⟨⟨⟨?_, ?_, ?_⟩, h.sesss⟩, rfl, rfl, rfl, hbearer, rfl, ?_⟩
  · apply h.bearers.congr
    · exact fun _ => Iff.rfl
    · exact fun _ => Iff.rfl
    · exact fun b _ => (hbearer b).1
    · exact fun _ _ => rfl
  · apply h.tunnels.removeChild (c := tunnel)
    · exact fun _ => Iff.rfl
    · exact hlive
    · exact fun _ _ => rfl
    · simp [sgwTunnelRemove]
    · intro b hb
      simp [sgwTunnelRemove, hb]
  · intro b hb
    rw [(hbearer b).2.1, (hbearer b).1]
    exact h.owner b hb
  · intro x
    rw [hlive, and_comm]

theorem pruned_indirectTunnel (h : s.Tree) (tunnel : SgwTunnelId) :
    s.Pruned (s.sgwDeleteIndirectTunnel tunnel) fun x =>
      x = tunnel ∧ IsForwarding (s.tunnels.mem x).interfaceType := by
  rw [sgwDeleteIndirectTunnel]
  split
  · rename_i htype
    apply (pruned_tunnelRemove h tunnel).congr
    intro x _
    constructor
    · rintro rfl
      exact ⟨rfl, htype⟩
    · exact And.left
  · rename_i htype
    apply (Pruned.refl h).congr
    intro x _
    constructor
    · exact False.elim
    · rintro ⟨rfl, hx⟩
      exact htype hx

theorem pruned_indirectInBearer (h : s.Tree) (hlive : s.bearers.live bearer = true) :
    s.Pruned (s.sgwDeleteIndirectInBearer bearer) fun x =>
      (s.tunnels.mem x).bearer = bearer ∧ IsForwarding (s.tunnels.mem x).interfaceType := by
  have hloop := @Pruned.foldl _ _ _ _
    (fun i x => x = i ∧ IsForwarding (s.tunnels.mem x).interfaceType)
    (s.bearers.mem bearer).tunnelList (Pruned.refl h) fun u q hu i _ => by
      rw [← hu.mem]
      exact pruned_indirectTunnel hu.tree i
  apply hloop.congr
  intro x hx
  have hmem := h.tunnels.mem_iff bearer hlive x
  simp [hmem, hx]

theorem pruned_indirectInSess (h : s.Tree) (hlive : s.sesss.live sess = true) :
    s.Pruned (s.sgwDeleteIndirectInSess sess) fun x =>
      (s.bearers.mem (s.tunnels.mem x).bearer).sess = sess ∧
        IsForwarding (s.tunnels.mem x).interfaceType := by
  have hmem := h.bearers.mem_iff sess hlive
  have hloop := @Pruned.foldl _ _ _ _
    (fun i x => (s.tunnels.mem x).bearer = i ∧ IsForwarding (s.tunnels.mem x).interfaceType)
    (s.sesss.mem sess).bearerList (Pruned.refl h) fun u q hu i hi => by
      rw [← hu.mem]
      apply pruned_indirectInBearer hu.tree
      rw [hu.live]
      exact ((hmem i).mp hi).1
  apply hloop.congr
  intro x hx
  have hbearer := h.tunnels.live x hx
  simp [hmem, hbearer]

theorem pruned_indirect (h : s.Tree) (hlive : s.ues.live sgwUe = true) :
    s.Pruned (s.sgwS11HandleDeleteIndirectDataForwardingTunnelRequest sgwUe) fun x =>
      (s.bearers.mem (s.tunnels.mem x).bearer).sgwUe = sgwUe ∧
        IsForwarding (s.tunnels.mem x).interfaceType := by
  have hmem := h.sesss.mem_iff sgwUe hlive
  have hloop := @Pruned.foldl _ _ _ _
    (fun i x => (s.bearers.mem (s.tunnels.mem x).bearer).sess = i ∧
      IsForwarding (s.tunnels.mem x).interfaceType)
    (s.ues.mem sgwUe).sessList (Pruned.refl h) fun u q hu i hi => by
      have hsess := pruned_indirectInSess hu.tree (by
        rw [hu.sesss]
        exact ((hmem i).mp hi).1)
      simp only [hu.mem, (hu.bearer _).1] at hsess
      exact hsess
  apply hloop.congr
  intro x hx
  have hbearer := h.tunnels.live x hx
  have hsess := h.bearers.live _ hbearer
  simp [hmem, hsess, h.owner _ hbearer]

theorem Pruned.shrinks (h : s.Pruned t p)
    (hp : ∀ x, p x → IsForwarding (s.tunnels.mem x).interfaceType) : s.Shrinks t := by
  constructor
  · rw [h.ues]
    exact fun _ => id
  · rw [h.sesss]
    exact fun _ => id
  · rw [h.sesss]
    exact fun _ => rfl
  · rw [h.live]
    exact fun _ => id
  · exact h.bearer
  · intro x hx
    exact ((h.tunnels x).mp hx).1
  · exact h.mem
  · intro x hx _ htype
    rw [h.tunnels]
    exact ⟨hx, fun hin => htype (hp x hin)⟩

end SgwContext
end NextEpc

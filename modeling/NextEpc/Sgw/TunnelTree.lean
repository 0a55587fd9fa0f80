import NextEpc.Lib.Family
import NextEpc.Lib.Trace
import NextEpc.Sgw.Handlers

/-!
# The tree of tunnels

UEs, sessions, bearers and tunnels are linked both ways at each level, each bearer has one tunnel
to the eNB and one to the PGW, and a tunnel is found with the TEID that it has. Adding, removing
and indirect forwarding keep this in every run.
-/

namespace NextEpc
namespace SgwContext
variable {s t u : SgwContext} {sgwUe : SgwUeId} {sess : SgwSessId} {bearer : SgwBearerId}
  {tunnel : SgwTunnelId}

/-- The lists of tunnels agree with the pointers to bearers. -/
abbrev LinkedTunnels (s : SgwContext) : Prop :=
  Family.Linked (fun bearer => s.bearers.live bearer = true)
    (fun tunnel => s.tunnels.live tunnel = true) (fun tunnel => (s.tunnels.mem tunnel).bearer)
    (fun bearer => (s.bearers.mem bearer).tunnelList)

/-- The lists of bearers and of tunnels agree with the pointers to sessions and bearers, and a
bearer has the UE of its session. -/
structure SubTree (s : SgwContext) : Prop where
  bearers : Family.Linked (fun sess => s.sesss.live sess = true)
    (fun bearer => s.bearers.live bearer = true) (fun bearer => (s.bearers.mem bearer).sess)
    (fun sess => (s.sesss.mem sess).bearerList)
  tunnels : s.LinkedTunnels
  owner : ∀ bearer, s.bearers.live bearer = true →
    (s.bearers.mem bearer).sgwUe = (s.sesss.mem (s.bearers.mem bearer).sess).sgwUe

/-- So do the lists of sessions. -/
structure Tree (s : SgwContext) : Prop extends s.SubTree where
  sesss : Family.Linked (fun ue => s.ues.live ue = true) (fun sess => s.sesss.live sess = true)
    (fun sess => (s.sesss.mem sess).sgwUe) (fun ue => (s.ues.mem ue).sessList)

/-- The TEIDs of tunnels in use are the indices of their slots. -/
def IndexTeid (s : SgwContext) : Prop :=
  ∀ tunnel, s.tunnels.live tunnel = true →
    IsPoolIndex tunnel ∧ (s.tunnels.mem tunnel).localTeid = UInt32.ofNat tunnel

/-- The bearer has exactly one tunnel of the type. -/
def HasOne (s : SgwContext) (bearer : SgwBearerId) (interfaceType : UInt8) : Prop :=
  ∃! tunnel, s.tunnels.live tunnel = true ∧ (s.tunnels.mem tunnel).bearer = bearer ∧
    (s.tunnels.mem tunnel).interfaceType = interfaceType

/-- Each bearer in use has one S1-U and one S5/S8 tunnel. -/
def TunnelPair (s : SgwContext) : Prop :=
  ∀ bearer, s.bearers.live bearer = true →
    s.HasOne bearer s1uSgwGtpU ∧ s.HasOne bearer s5s8SgwGtpU

/-! ## Writes to other fields -/

/-- The lists, the pointers to parents and the TEIDs of the SGW are the same. -/
structure SameShape (s t : SgwContext) : Prop where
  ues : t.ues.live = s.ues.live
  ue : ∀ ue, (t.ues.mem ue).sessList = (s.ues.mem ue).sessList
  sesss : t.sesss.live = s.sesss.live
  sess : ∀ sess, (t.sesss.mem sess).bearerList = (s.sesss.mem sess).bearerList ∧
    (t.sesss.mem sess).sgwUe = (s.sesss.mem sess).sgwUe
  bearers : t.bearers.live = s.bearers.live
  bearer : ∀ bearer, (t.bearers.mem bearer).tunnelList = (s.bearers.mem bearer).tunnelList ∧
    (t.bearers.mem bearer).sess = (s.bearers.mem bearer).sess ∧
    (t.bearers.mem bearer).sgwUe = (s.bearers.mem bearer).sgwUe
  tunnels : t.tunnels.live = s.tunnels.live
  tunnel : ∀ tunnel, (t.tunnels.mem tunnel).interfaceType = (s.tunnels.mem tunnel).interfaceType ∧
    (t.tunnels.mem tunnel).localTeid = (s.tunnels.mem tunnel).localTeid ∧
    (t.tunnels.mem tunnel).bearer = (s.tunnels.mem tunnel).bearer

theorem SameShape.refl (s : SgwContext) : s.SameShape s :=
  ⟨rfl, fun _ => rfl, rfl, fun _ => ⟨rfl, rfl⟩, rfl, fun _ => ⟨rfl, rfl, rfl⟩, rfl,
    fun _ => ⟨rfl, rfl, rfl⟩⟩

theorem SameShape.trans (h : s.SameShape t) (h' : t.SameShape u) : s.SameShape u := by
  constructor
  · exact h'.ues.trans h.ues
  · intro ue
    exact (h'.ue ue).trans (h.ue ue)
  · exact h'.sesss.trans h.sesss
  · intro sess
    exact ⟨(h'.sess sess).1.trans (h.sess sess).1, (h'.sess sess).2.trans (h.sess sess).2⟩
  · exact h'.bearers.trans h.bearers
  · intro bearer
    obtain ⟨hlist, hsess, hue⟩ := h.bearer bearer
    obtain ⟨hlist', hsess', hue'⟩ := h'.bearer bearer
    exact ⟨hlist'.trans hlist, hsess'.trans hsess, hue'.trans hue⟩
  · exact h'.tunnels.trans h.tunnels
  · intro tunnel
    obtain ⟨htype, hteid, hbearer⟩ := h.tunnel tunnel
    obtain ⟨htype', hteid', hbearer'⟩ := h'.tunnel tunnel
    exact ⟨htype'.trans htype, hteid'.trans hteid, hbearer'.trans hbearer⟩

theorem SameShape.subTree (h : s.SameShape t) (hs : s.SubTree) : t.SubTree := by
  constructor
  · apply hs.bearers.congr
    · simp [h.sesss]
    · simp [h.bearers]
    · exact fun b _ => (h.bearer b).2.1
    · exact fun σ _ => (h.sess σ).1
  · apply hs.tunnels.congr
    · simp [h.bearers]
    · simp [h.tunnels]
    · exact fun x _ => (h.tunnel x).2.2
    · exact fun b _ => (h.bearer b).1
  · intro b hb
    rw [h.bearers] at hb
    rw [(h.bearer b).2.2, (h.bearer b).2.1, (h.sess _).2]
    exact hs.owner b hb

theorem SameShape.tree (h : s.SameShape t) (hs : s.Tree) : t.Tree := by
  refine ⟨h.subTree hs.toSubTree, ?_⟩
  apply hs.sesss.congr
  · simp [h.ues]
  · simp [h.sesss]
  · exact fun σ _ => (h.sess σ).2
  · exact fun ue _ => h.ue ue

theorem SameShape.indexTeid (h : s.SameShape t) (hs : s.IndexTeid) : t.IndexTeid := by
  intro x hx
  rw [h.tunnels] at hx
  rw [(h.tunnel x).2.1]
  exact hs x hx

theorem SameShape.tunnelPair (h : s.SameShape t) (hs : s.TunnelPair) : t.TunnelPair := by
  have hsame : ∀ b type, t.HasOne b type ↔ s.HasOne b type := by
    intro b type
    rw [HasOne, HasOne, h.tunnels]
    simp only [(h.tunnel _).1, (h.tunnel _).2.2]
  intro b hb
  rw [h.bearers] at hb
  rw [hsame, hsame]
  exact hs b hb

/-! ## Removing -/

/-- Nothing but removals leads from the first state to the second. A bearer that stays keeps its
tunnels, except indirect ones. -/
structure Shrinks (s t : SgwContext) : Prop where
  ues : ∀ ue, t.ues.live ue = true → s.ues.live ue = true
  sesss : ∀ sess, t.sesss.live sess = true → s.sesss.live sess = true
  sess : ∀ sess, (t.sesss.mem sess).sgwUe = (s.sesss.mem sess).sgwUe
  bearers : ∀ bearer, t.bearers.live bearer = true → s.bearers.live bearer = true
  bearer : ∀ bearer, (t.bearers.mem bearer).sess = (s.bearers.mem bearer).sess ∧
    (t.bearers.mem bearer).sgwUe = (s.bearers.mem bearer).sgwUe ∧
    (t.bearers.mem bearer).bufferedPkts = (s.bearers.mem bearer).bufferedPkts
  tunnels : ∀ tunnel, t.tunnels.live tunnel = true → s.tunnels.live tunnel = true
  tunnel : t.tunnels.mem = s.tunnels.mem
  kept : ∀ tunnel, s.tunnels.live tunnel = true →
    t.bearers.live (s.tunnels.mem tunnel).bearer = true →
    ¬IsForwarding (s.tunnels.mem tunnel).interfaceType → t.tunnels.live tunnel = true

theorem Shrinks.refl (s : SgwContext) : s.Shrinks s :=
  ⟨fun _ => id, fun _ => id, fun _ => rfl, fun _ => id, fun _ => ⟨rfl, rfl, rfl⟩, fun _ => id, rfl,
    fun _ h _ _ => h⟩

theorem Shrinks.trans (h : s.Shrinks t) (h' : t.Shrinks u) : s.Shrinks u := by
  constructor
  · intro ue hlive
    exact h.ues ue (h'.ues ue hlive)
  · intro σ hlive
    exact h.sesss σ (h'.sesss σ hlive)
  · intro σ
    exact (h'.sess σ).trans (h.sess σ)
  · intro b hlive
    exact h.bearers b (h'.bearers b hlive)
  · intro b
    obtain ⟨hsess, hue, hpkts⟩ := h.bearer b
    obtain ⟨hsess', hue', hpkts'⟩ := h'.bearer b
    exact ⟨hsess'.trans hsess, hue'.trans hue, hpkts'.trans hpkts⟩
  · intro x hlive
    exact h.tunnels x (h'.tunnels x hlive)
  · exact h'.tunnel.trans h.tunnel
  · intro x hlive hbearer htype
    have hmid := h.kept x hlive (h'.bearers _ hbearer) htype
    rw [← h.tunnel] at hbearer htype
    exact h'.kept x hmid hbearer htype

theorem Shrinks.indexTeid (h : s.Shrinks t) (hs : s.IndexTeid) : t.IndexTeid := by
  intro x hx
  rw [h.tunnel]
  exact hs x (h.tunnels x hx)

theorem Shrinks.hasOne (h : s.Shrinks t) {type : UInt8} (hs : s.HasOne bearer type)
    (hlive : t.bearers.live bearer = true) (htype : ¬IsForwarding type) : t.HasOne bearer type := by
  obtain ⟨x, ⟨hx, hbearer, hxtype⟩, hunique⟩ := hs
  refine ⟨x, ⟨?_, ?_, ?_⟩, ?_⟩
  · apply h.kept x hx
    · rwa [hbearer]
    · rwa [hxtype]
  · rw [h.tunnel]
    exact hbearer
  · rw [h.tunnel]
    exact hxtype
  · intro y hy
    rw [h.tunnel] at hy
    exact hunique y ⟨h.tunnels y hy.1, hy.2⟩

theorem Shrinks.tunnelPair (h : s.Shrinks t) (hs : s.TunnelPair) : t.TunnelPair := by
  intro b hb
  obtain ⟨hs1u, hs5u⟩ := hs b (h.bearers b hb)
  exact ⟨h.hasOne hs1u hb (by decide), h.hasOne hs5u hb (by decide)⟩

theorem foldl_pkbufFree (l : List SgwPkbuf) (s : SgwContext) : l.foldl pkbufFree s =
    { s with
      pkbufs := (l.foldl pkbufFree s).pkbufs
      fault := (l.foldl pkbufFree s).fault } := by
  induction l generalizing s with
  | nil => rfl
  | cons p l ih =>
    rw [List.foldl_cons, ih (s.pkbufFree p)]
    rfl

/-- Freeing packet buffers does not look at the pools. -/
theorem foldl_pkbufFree_congr (l : List SgwPkbuf) (hpkbufs : t.pkbufs = s.pkbufs)
    (hfault : t.fault = s.fault) : (l.foldl pkbufFree t).pkbufs = (l.foldl pkbufFree s).pkbufs ∧
      (l.foldl pkbufFree t).fault = (l.foldl pkbufFree s).fault := by
  induction l generalizing s t with
  | nil => exact ⟨hpkbufs, hfault⟩
  | cons p l ih =>
    apply ih
    · simp [pkbufFree, hpkbufs]
    · simp [pkbufFree, hpkbufs, hfault]

/-- Tunnels of one bearer are removed. -/
theorem foldl_tunnelRemove (l : List SgwTunnelId) (s : SgwContext) (bearer : SgwBearerId)
    (hl : ∀ x ∈ l, (s.tunnels.mem x).bearer = bearer) : l.foldl sgwTunnelRemove s =
      { s with
        bearers := s.bearers.modify bearer fun m => { m with tunnelList := m.tunnelList.diff l }
        tunnels := l.foldl Pool.free s.tunnels } := by
  induction l generalizing s with
  | nil =>
    rw [Pool.modify_eq_self]
    · rfl
    · rfl
  | cons x l ih =>
    have hx := hl x List.mem_cons_self
    have hrest : ∀ y ∈ l, ((s.sgwTunnelRemove x).tunnels.mem y).bearer = bearer := by
      intro y hy
      exact hl y (List.mem_cons_of_mem _ hy)
    rw [List.foldl_cons, ih _ hrest, sgwTunnelRemove, hx]
    dsimp only
    rw [Pool.modify_modify]
    simp only [List.foldl_cons, List.diff_cons]

/-- A bearer is removed with its tunnels and its packet buffers. -/
theorem sgwBearerRemove_eq (h : ∀ x ∈ (s.bearers.mem bearer).tunnelList,
    (s.tunnels.mem x).bearer = bearer) : s.sgwBearerRemove bearer =
      { s with
        sesss := s.sesss.modify (s.bearers.mem bearer).sess fun m =>
          { m with bearerList := m.bearerList.erase bearer }
        bearers := (s.bearers.modify bearer fun m =>
          { m with tunnelList := m.tunnelList.diff (s.bearers.mem bearer).tunnelList }).free bearer
        tunnels := (s.bearers.mem bearer).tunnelList.foldl Pool.free s.tunnels
        pkbufs := ((s.bearers.mem bearer).bufferedPkts.foldl pkbufFree s).pkbufs
        fault := ((s.bearers.mem bearer).bufferedPkts.foldl pkbufFree s).fault } := by
  let unlinked : SgwContext :=
    { s with
      sesss := s.sesss.modify (s.bearers.mem bearer).sess fun m =>
        { m with bearerList := m.bearerList.erase bearer } }
  let emptied : SgwContext :=
    { unlinked with
      bearers := s.bearers.modify bearer fun m =>
        { m with tunnelList := m.tunnelList.diff (s.bearers.mem bearer).tunnelList }
      tunnels := (s.bearers.mem bearer).tunnelList.foldl Pool.free s.tunnels }
  have htunnels : unlinked.sgwTunnelRemoveAll bearer = emptied :=
    foldl_tunnelRemove _ unlinked bearer h
  have hbuffered : (emptied.bearers.mem bearer).bufferedPkts =
      (s.bearers.mem bearer).bufferedPkts := by
    simp [emptied]
  obtain ⟨hpkbufs, hfault⟩ := @foldl_pkbufFree_congr s emptied
    (s.bearers.mem bearer).bufferedPkts rfl rfl
  rw [← hpkbufs, ← hfault]
  have hremove : s.sgwBearerRemove bearer =
      { ((unlinked.sgwTunnelRemoveAll bearer).bearers.mem bearer).bufferedPkts.foldl pkbufFree
        (unlinked.sgwTunnelRemoveAll bearer) with
        bearers := (((unlinked.sgwTunnelRemoveAll bearer).bearers.mem bearer).bufferedPkts.foldl
          pkbufFree (unlinked.sgwTunnelRemoveAll bearer)).bearers.free bearer } := rfl
  rw [hremove, htunnels, hbuffered, foldl_pkbufFree]

theorem SubTree.bearer_of_mem (h : s.SubTree) (hlive : s.bearers.live bearer = true) :
    ∀ x ∈ (s.bearers.mem bearer).tunnelList, (s.tunnels.mem x).bearer = bearer := by
  intro x hx
  exact ((h.tunnels.mem_iff bearer hlive x).mp hx).2

theorem live_bearerRemove (h : s.SubTree) (hlive : s.bearers.live bearer = true)
    {b : SgwBearerId} : (s.sgwBearerRemove bearer).bearers.live b = true ↔
      b ≠ bearer ∧ s.bearers.live b = true := by
  rw [sgwBearerRemove_eq (h.bearer_of_mem hlive)]
  simp only [Pool.live_free, Pool.live_modify]
  split <;> simp [*]

theorem live_tunnel_bearerRemove (h : s.SubTree) (hlive : s.bearers.live bearer = true) :
    (s.sgwBearerRemove bearer).tunnels.live tunnel = true ↔
      s.tunnels.live tunnel = true ∧ (s.tunnels.mem tunnel).bearer ≠ bearer := by
  rw [sgwBearerRemove_eq (h.bearer_of_mem hlive)]
  simp only [Pool.live_foldl_free, h.tunnels.mem_iff bearer hlive]
  by_cases hx : s.tunnels.live tunnel = true
  · by_cases hb : (s.tunnels.mem tunnel).bearer = bearer
    · simp [hx, hb]
    · simp [hx, hb]
  · simp [hx]

theorem shrinks_bearerRemove (h : s.SubTree) (hlive : s.bearers.live bearer = true) :
    s.Shrinks (s.sgwBearerRemove bearer) := by
  have heq := sgwBearerRemove_eq (h.bearer_of_mem hlive)
  constructor
  · rw [heq]
    exact fun _ => id
  · rw [heq]
    exact fun _ => id
  · intro σ
    rw [heq]
    simp only [Pool.mem_modify]
    split
    · rename_i hσ
      rw [hσ]
    · rfl
  · intro b hb
    exact ((live_bearerRemove h hlive).mp hb).2
  · intro b
    rw [heq]
    simp only [Pool.mem_free, Pool.mem_modify]
    split
    · rename_i hb
      rw [hb]
      exact ⟨rfl, rfl, rfl⟩
    · exact ⟨rfl, rfl, rfl⟩
  · intro x hx
    exact ((live_tunnel_bearerRemove h hlive).mp hx).1
  · rw [heq]
    exact Pool.mem_foldl_free _ _
  · intro x hx hb _
    rw [live_tunnel_bearerRemove h hlive]
    exact ⟨hx, ((live_bearerRemove h hlive).mp hb).1⟩

theorem SubTree.bearerRemove (h : s.SubTree) (hlive : s.bearers.live bearer = true) :
    (s.sgwBearerRemove bearer).SubTree := by
  have heq := sgwBearerRemove_eq (h.bearer_of_mem hlive)
  have hshrinks := shrinks_bearerRemove h hlive
  constructor
  · apply h.bearers.removeChild (c := bearer)
    · rw [heq]
      exact fun _ => Iff.rfl
    · exact fun b => live_bearerRemove h hlive
    · intro b _
      exact (hshrinks.bearer b).1
    · rw [heq]
      simp
    · intro σ hσ
      rw [heq]
      simp [hσ]
  · rw [LinkedTunnels, hshrinks.tunnel]
    apply h.tunnels.removeFamily (p := bearer)
    · exact fun b => live_bearerRemove h hlive
    · intro x
      exact live_tunnel_bearerRemove h hlive
    · intro b hb
      rw [heq]
      simp [hb]
  · intro b hb
    rw [(hshrinks.bearer b).2.1, (hshrinks.bearer b).1, hshrinks.sess]
    exact h.owner b (hshrinks.bearers b hb)

/-- Bearers are removed. -/
theorem foldl_bearerRemove (l : List SgwBearerId) (hl : l.Nodup) (h : s.SubTree)
    (hlive : ∀ b ∈ l, s.bearers.live b = true) : (l.foldl sgwBearerRemove s).SubTree ∧
      s.Shrinks (l.foldl sgwBearerRemove s) ∧ (l.foldl sgwBearerRemove s).ues = s.ues ∧
      (l.foldl sgwBearerRemove s).sesss.live = s.sesss.live ∧
      ∀ b ∈ l, (l.foldl sgwBearerRemove s).bearers.live b ≠ true := by
  induction l generalizing s with
  | nil => exact ⟨h, Shrinks.refl s, rfl, rfl, by simp⟩
  | cons bearer l ih =>
    have hnodup := List.nodup_cons.mp hl
    have hbearer := hlive bearer List.mem_cons_self
    have heq := sgwBearerRemove_eq (h.bearer_of_mem hbearer)
    have hrest : ∀ b ∈ l, (s.sgwBearerRemove bearer).bearers.live b = true := by
      intro b hb
      rw [live_bearerRemove h hbearer]
      refine ⟨?_, hlive b (List.mem_cons_of_mem _ hb)⟩
      rintro rfl
      exact hnodup.1 hb
    obtain ⟨hsub, hshrinks, hues, hsesss, hgone⟩ := ih hnodup.2 (h.bearerRemove hbearer) hrest
    refine ⟨hsub, (shrinks_bearerRemove h hbearer).trans hshrinks, ?_, ?_, ?_⟩
    · apply hues.trans
      rw [heq]
    · apply hsesss.trans
      rw [heq]
      rfl
    · intro b hb
      rcases List.mem_cons.mp hb with rfl | hb
      · intro hin
        exact ((live_bearerRemove h hbearer).mp (hshrinks.bearers b hin)).1 rfl
      · exact hgone b hb

/-- A session is taken out of the list of its UE. -/
def unlinkSess (s : SgwContext) (sess : SgwSessId) : SgwContext :=
  s.setUe (s.sesss.mem sess).sgwUe fun m => { m with sessList := m.sessList.erase sess }

theorem sgwSessRemove_eq : s.sgwSessRemove sess =
    { (s.unlinkSess sess).sgwBearerRemoveAll sess with
      sesss := ((s.unlinkSess sess).sgwBearerRemoveAll sess).sesss.free sess } := rfl

theorem SubTree.unlinkSess (h : s.SubTree) (sess : SgwSessId) : (s.unlinkSess sess).SubTree :=
  ⟨h.bearers, h.tunnels, h.owner⟩

theorem sessRemove_spec (h : s.Tree) (hsess : s.sesss.live sess = true) :
    (s.sgwSessRemove sess).Tree ∧ s.Shrinks (s.sgwSessRemove sess) ∧
      (s.sgwSessRemove sess).ues.live = s.ues.live ∧
      ∀ σ, (s.sgwSessRemove sess).sesss.live σ = true ↔ σ ≠ sess ∧ s.sesss.live σ = true := by
  have hlist := h.bearers.mem_iff sess hsess
  obtain ⟨hsub, hshrinks, hues, hsesss, hgone⟩ := foldl_bearerRemove
    (s.sesss.mem sess).bearerList (h.bearers.nodup sess hsess) (h.toSubTree.unlinkSess sess)
    fun b hb => ((hlist b).mp hb).1
  change (((s.unlinkSess sess).sgwBearerRemoveAll sess)).SubTree at hsub
  change (s.unlinkSess sess).Shrinks ((s.unlinkSess sess).sgwBearerRemoveAll sess) at hshrinks
  change ((s.unlinkSess sess).sgwBearerRemoveAll sess).ues = _ at hues
  change ((s.unlinkSess sess).sgwBearerRemoveAll sess).sesss.live = s.sesss.live at hsesss
  -- nothing is left in the list of the session
  have hempty : (((s.unlinkSess sess).sgwBearerRemoveAll sess).sesss.mem sess).bearerList = [] := by
    rw [List.eq_nil_iff_forall_not_mem]
    intro b hb
    have hmem := (hsub.bearers.mem_iff sess (by rwa [hsesss]) b).mp hb
    apply hgone b _ hmem.1
    rw [hlist]
    refine ⟨hshrinks.bearers b hmem.1, ?_⟩
    rw [← hmem.2, (hshrinks.bearer b).1]
    rfl
  have hlive : ∀ σ, (s.sgwSessRemove sess).sesss.live σ = true ↔
      σ ≠ sess ∧ s.sesss.live σ = true := by
    intro σ
    rw [sgwSessRemove_eq]
    simp only [Pool.live_free, hsesss]
    split <;> simp [*]
  have hueseq : (s.sgwSessRemove sess).ues = (s.unlinkSess sess).ues := hues
  have hueslive : (s.sgwSessRemove sess).ues.live = s.ues.live := by
    rw [hueseq]
    rfl
  refine ⟨⟨⟨?_, ?_, ?_⟩, ?_⟩, ?_, hueslive, hlive⟩
  · apply hsub.bearers.removeParent hempty
    · intro σ
      rw [hlive, hsesss]
    · exact fun _ _ => rfl
  · exact hsub.tunnels
  · exact hsub.owner
  · apply h.sesss.removeChild (c := sess)
    · intro ue
      rw [hueslive]
    · exact hlive
    · intro σ _
      exact hshrinks.sess σ
    · rw [hueseq]
      simp [SgwContext.unlinkSess, setUe]
    · intro ue hue
      rw [hueseq]
      simp [SgwContext.unlinkSess, setUe, hue]
  · constructor
    · rw [hueslive]
      exact fun _ => id
    · intro σ hσ
      exact ((hlive σ).mp hσ).2
    · exact hshrinks.sess
    · exact hshrinks.bearers
    · exact hshrinks.bearer
    · exact hshrinks.tunnels
    · exact hshrinks.tunnel
    · exact hshrinks.kept

theorem foldl_sessRemove (l : List SgwSessId) (hl : l.Nodup) (h : s.Tree)
    (hlive : ∀ σ ∈ l, s.sesss.live σ = true) : (l.foldl sgwSessRemove s).Tree ∧
      s.Shrinks (l.foldl sgwSessRemove s) ∧ (l.foldl sgwSessRemove s).ues.live = s.ues.live ∧
      ∀ σ ∈ l, (l.foldl sgwSessRemove s).sesss.live σ ≠ true := by
  induction l generalizing s with
  | nil => exact ⟨h, Shrinks.refl s, rfl, by simp⟩
  | cons sess l ih =>
    have hnodup := List.nodup_cons.mp hl
    obtain ⟨htree, hremove, hues, hsesss⟩ := sessRemove_spec h (hlive sess List.mem_cons_self)
    have hrest : ∀ σ ∈ l, (s.sgwSessRemove sess).sesss.live σ = true := by
      intro σ hσ
      rw [hsesss]
      refine ⟨?_, hlive σ (List.mem_cons_of_mem _ hσ)⟩
      rintro rfl
      exact hnodup.1 hσ
    obtain ⟨htree', hshrinks, hues', hgone⟩ := ih hnodup.2 htree hrest
    refine ⟨htree', hremove.trans hshrinks, hues'.trans hues, ?_⟩
    intro σ hσ
    rcases List.mem_cons.mp hσ with rfl | hσ
    · intro hin
      exact ((hsesss σ).mp (hshrinks.sesss σ hin)).1 rfl
    · exact hgone σ hσ

theorem ueRemove_spec (h : s.Tree) (hue : s.ues.live sgwUe = true) :
    (s.sgwUeRemove sgwUe).Tree ∧ s.Shrinks (s.sgwUeRemove sgwUe) := by
  have hlist := h.sesss.mem_iff sgwUe hue
  obtain ⟨htree, hshrinks, hues, hgone⟩ := foldl_sessRemove (s.ues.mem sgwUe).sessList
    (h.sesss.nodup sgwUe hue) h fun σ hσ => ((hlist σ).mp hσ).1
  change (s.sgwSessRemoveAll sgwUe).Tree at htree
  change s.Shrinks (s.sgwSessRemoveAll sgwUe) at hshrinks
  change (s.sgwSessRemoveAll sgwUe).ues.live = s.ues.live at hues
  have hempty : ((s.sgwSessRemoveAll sgwUe).ues.mem sgwUe).sessList = [] := by
    rw [List.eq_nil_iff_forall_not_mem]
    intro σ hσ
    have hmem := (htree.sesss.mem_iff sgwUe (by rwa [hues]) σ).mp hσ
    apply hgone σ _ hmem.1
    rw [hlist]
    refine ⟨hshrinks.sesss σ hmem.1, ?_⟩
    rw [← hmem.2, hshrinks.sess]
  have hlive : ∀ ue, (s.sgwUeRemove sgwUe).ues.live ue = true ↔
      ue ≠ sgwUe ∧ s.ues.live ue = true := by
    intro ue
    change ((s.sgwSessRemoveAll sgwUe).ues.free sgwUe).live ue = true ↔ _
    rw [Pool.live_free, hues]
    split <;> simp [*]
  refine ⟨⟨⟨htree.bearers, htree.tunnels, htree.owner⟩, ?_⟩, ?_⟩
  · apply htree.sesss.removeParent hempty
    · intro ue
      rw [hlive, hues]
    · exact fun _ _ => rfl
  · constructor
    · intro ue hin
      exact ((hlive ue).mp hin).2
    · exact hshrinks.sesss
    · exact hshrinks.sess
    · exact hshrinks.bearers
    · exact hshrinks.bearer
    · exact hshrinks.tunnels
    · exact hshrinks.tunnel
    · exact hshrinks.kept

end SgwContext
end NextEpc

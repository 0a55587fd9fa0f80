import NextEpc.Lib.Family
import NextEpc.Lib.Trace
import NextEpc.Mme.Records

/-!
# EPS bearer identities

The sessions of a UE and the bearers of a session are in lists that agree with the pointers of
the records. The identity of a new bearer is the next one after the last, and is not compared
with those of the bearers in use: in a run they are unique if and only if it never is one of
theirs.
-/

namespace NextEpc
namespace MmeRecords
variable {s t : MmeRecords} {op : Op} {mmeUe : MmeUeId} {sess : MmeSessId}
  {bearer : MmeBearerId}

/-! ## Lists and pointers agree -/

/-- The lists of sessions and of bearers agree with the pointers to UEs and to sessions, and a
bearer has the UE of its session. -/
structure Linked (s : MmeRecords) : Prop where
  sesss : Family.Linked (fun ue => s.mmeUes.live ue = true) (fun sess => s.sesss.live sess = true)
    (fun sess => (s.sesss.mem sess).mmeUe) (fun ue => (s.mmeUes.mem ue).sessList)
  bearers : Family.Linked (fun sess => s.sesss.live sess = true)
    (fun bearer => s.bearers.live bearer = true) (fun bearer => (s.bearers.mem bearer).sess)
    (fun sess => (s.sesss.mem sess).bearerList)
  owner : ∀ bearer, s.bearers.live bearer = true →
    (s.bearers.mem bearer).mmeUe = (s.sesss.mem (s.bearers.mem bearer).sess).mmeUe

/-- Nothing but removals of sessions and bearers leads from the first state to the second. -/
structure Shrinks (s t : MmeRecords) : Prop where
  mmeUes : t.mmeUes.live = s.mmeUes.live
  sesss : ∀ sess, t.sesss.live sess = true → s.sesss.live sess = true
  sessUe : ∀ sess, (t.sesss.mem sess).mmeUe = (s.sesss.mem sess).mmeUe
  bearers : ∀ bearer, t.bearers.live bearer = true → s.bearers.live bearer = true
  identity : ∀ bearer, (t.bearers.mem bearer).ebi = (s.bearers.mem bearer).ebi ∧
    (t.bearers.mem bearer).mmeUe = (s.bearers.mem bearer).mmeUe ∧
    (t.bearers.mem bearer).sess = (s.bearers.mem bearer).sess

theorem Shrinks.refl (s : MmeRecords) : s.Shrinks s :=
  ⟨rfl, fun _ => id, fun _ => rfl, fun _ => id, fun _ => ⟨rfl, rfl, rfl⟩⟩

theorem Shrinks.trans {u : MmeRecords} (h : s.Shrinks t) (h' : t.Shrinks u) : s.Shrinks u := by
  constructor
  · exact h'.mmeUes.trans h.mmeUes
  · intro sess hlive
    exact h.sesss sess (h'.sesss sess hlive)
  · intro sess
    exact (h'.sessUe sess).trans (h.sessUe sess)
  · intro bearer hlive
    exact h.bearers bearer (h'.bearers bearer hlive)
  · intro bearer
    obtain ⟨hebi, hue, hsess⟩ := h.identity bearer
    obtain ⟨hebi', hue', hsess'⟩ := h'.identity bearer
    exact ⟨hebi'.trans hebi, hue'.trans hue, hsess'.trans hsess⟩

/-! ## Removing bearers -/

theorem shrinks_bearerRemove (s : MmeRecords) (bearer : MmeBearerId) :
    s.Shrinks (s.mmeBearerRemove bearer) := by
  constructor
  · rfl
  · intro sess
    exact id
  · intro sess
    rw [sesss_mmeBearerRemove, Pool.mem_modify]
    split
    · rename_i heq
      rw [heq]
    · rfl
  · intro b
    rw [bearers_mmeBearerRemove, Pool.live_free, Pool.live_modify]
    split
    · intro h
      cases h
    · exact id
  · intro b
    rw [bearers_mmeBearerRemove, Pool.mem_free, Pool.mem_modify]
    split
    · rename_i heq
      rw [heq]
      exact ⟨rfl, rfl, rfl⟩
    · exact ⟨rfl, rfl, rfl⟩

theorem live_bearerRemove {b : MmeBearerId} : (s.mmeBearerRemove bearer).bearers.live b = true ↔
    b ≠ bearer ∧ s.bearers.live b = true := by
  rw [bearers_mmeBearerRemove, Pool.live_free, Pool.live_modify]
  split <;> simp [*]

theorem Linked.bearerRemove (h : s.Linked) (bearer : MmeBearerId) :
    (s.mmeBearerRemove bearer).Linked := by
  have hshrinks := shrinks_bearerRemove s bearer
  constructor
  · apply h.sesss.congr
    · exact fun _ => Iff.rfl
    · exact fun _ => Iff.rfl
    · intro sess _
      exact hshrinks.sessUe sess
    · exact fun _ _ => rfl
  · apply h.bearers.removeChild (c := bearer)
    · exact fun _ => Iff.rfl
    · exact fun b => live_bearerRemove
    · intro b _
      exact (hshrinks.identity b).2.2
    · simp [sesss_mmeBearerRemove]
    · intro sess hsess
      simp [sesss_mmeBearerRemove, hsess]
  · intro b hb
    obtain ⟨-, hue, hsess⟩ := hshrinks.identity b
    rw [hue, hsess, hshrinks.sessUe]
    exact h.owner b (hshrinks.bearers b hb)

theorem foldl_bearerRemove (l : List MmeBearerId) (h : s.Linked) :
    (l.foldl mmeBearerRemove s).Linked ∧ s.Shrinks (l.foldl mmeBearerRemove s) ∧
      (l.foldl mmeBearerRemove s).sesss.live = s.sesss.live ∧
      ∀ b ∈ l, (l.foldl mmeBearerRemove s).bearers.live b ≠ true := by
  induction l generalizing s with
  | nil => exact ⟨h, Shrinks.refl s, rfl, by simp⟩
  | cons bearer l ih =>
    obtain ⟨hlinked, hshrinks, hlive, hgone⟩ := ih (h.bearerRemove bearer)
    refine ⟨hlinked, (shrinks_bearerRemove s bearer).trans hshrinks, hlive, ?_⟩
    intro b hb
    rcases List.mem_cons.mp hb with rfl | hb
    · intro hin
      exact (live_bearerRemove.mp (hshrinks.bearers b hin)).1 rfl
    · exact hgone b hb

/-! ## Removing sessions -/

/-- The removal of bearers does not look at the records of UEs. -/
theorem foldl_bearerRemove_mmeUes (l : List MmeBearerId) (s : MmeRecords)
    (mmeUes : Pool MmeUeRecord) : l.foldl mmeBearerRemove { s with mmeUes := mmeUes } =
      { l.foldl mmeBearerRemove s with mmeUes := mmeUes } := by
  induction l generalizing s with
  | nil => rfl
  | cons bearer l ih => exact ih (s.mmeBearerRemove bearer)

/-- The bearers of a session are removed, then the session, which is taken out of the list of
its UE. -/
theorem mmeSessRemove_eq (sess : MmeSessId) : s.mmeSessRemove sess =
    { s.mmeBearerRemoveAll sess with
      mmeUes := s.mmeUes.modify (s.sesss.mem sess).mmeUe fun m =>
        { m with sessList := m.sessList.erase sess }
      sesss := ((s.mmeBearerRemoveAll sess).sesss.modify sess MmeSessRecord.clear).free sess } := by
  simp only [mmeSessRemove, mmeBearerRemoveAll, foldl_bearerRemove_mmeUes]

theorem live_sessRemove (h : s.Linked) {σ : MmeSessId} :
    (s.mmeSessRemove sess).sesss.live σ = true ↔ σ ≠ sess ∧ s.sesss.live σ = true := by
  have hlive := (foldl_bearerRemove (s.sesss.mem sess).bearerList h).2.2.1
  rw [mmeSessRemove_eq]
  simp only [mmeBearerRemoveAll, Pool.live_free, Pool.live_modify, hlive]
  split <;> simp [*]

theorem shrinks_sessRemove (h : s.Linked) (sess : MmeSessId) :
    s.Shrinks (s.mmeSessRemove sess) := by
  have hshrinks : s.Shrinks (s.mmeBearerRemoveAll sess) :=
    (foldl_bearerRemove (s.sesss.mem sess).bearerList h).2.1
  constructor
  · rw [mmeSessRemove_eq]
    rfl
  · intro σ hlive
    exact ((live_sessRemove h).mp hlive).2
  · intro σ
    apply Eq.trans _ (hshrinks.sessUe σ)
    rw [mmeSessRemove_eq]
    simp only [Pool.mem_free, Pool.mem_modify]
    split
    · rename_i heq
      rw [heq]
      rfl
    · rfl
  · rw [mmeSessRemove_eq]
    exact hshrinks.bearers
  · rw [mmeSessRemove_eq]
    exact hshrinks.identity

theorem Linked.sessRemove (h : s.Linked) (hsess : s.sesss.live sess = true) :
    (s.mmeSessRemove sess).Linked := by
  obtain ⟨hlinked, hshrinks, hlive, hgone⟩ :=
    foldl_bearerRemove (s.sesss.mem sess).bearerList h
  rw [← mmeBearerRemoveAll] at hlinked hshrinks hlive hgone
  -- nothing is left in the list of the session
  have hempty : ((s.mmeBearerRemoveAll sess).sesss.mem sess).bearerList = [] := by
    rw [List.eq_nil_iff_forall_not_mem]
    intro b hb
    have hmem := (hlinked.bearers.mem_iff sess (by rwa [hlive]) b).mp hb
    have hold : b ∈ (s.sesss.mem sess).bearerList := by
      rw [h.bearers.mem_iff sess hsess, ← (hshrinks.identity b).2.2]
      exact ⟨hshrinks.bearers b hmem.1, hmem.2⟩
    exact hgone b hold hmem.1
  have hlive' : ∀ σ, (s.mmeSessRemove sess).sesss.live σ = true ↔
      σ ≠ sess ∧ s.sesss.live σ = true := fun σ => live_sessRemove h
  have hother : ∀ σ, σ ≠ sess → ((s.mmeSessRemove sess).sesss.mem σ) =
      ((s.mmeBearerRemoveAll sess).sesss.mem σ) := by
    intro σ hσ
    rw [mmeSessRemove_eq]
    simp [hσ]
  have hall := shrinks_sessRemove h sess
  constructor
  · apply h.sesss.removeChild (c := sess)
    · intro ue
      rw [hall.mmeUes]
    · exact hlive'
    · intro σ _
      exact hall.sessUe σ
    · rw [mmeSessRemove_eq]
      simp
    · intro ue hue
      rw [mmeSessRemove_eq]
      simp [hue]
  · have hbearers : (s.mmeSessRemove sess).bearers = (s.mmeBearerRemoveAll sess).bearers := by
      rw [mmeSessRemove_eq]
    rw [hbearers]
    apply hlinked.bearers.removeParent hempty
    · intro σ
      rw [hlive', hlive]
    · intro σ hσ
      rw [hother σ hσ]
  · intro b hb
    obtain ⟨-, hue, hsess'⟩ := hall.identity b
    rw [hue, hsess', hall.sessUe]
    exact h.owner b (hall.bearers b hb)

theorem foldl_sessRemove (l : List MmeSessId) (hl : l.Nodup) (h : s.Linked)
    (hlive : ∀ sess ∈ l, s.sesss.live sess = true) :
    (l.foldl mmeSessRemove s).Linked ∧ s.Shrinks (l.foldl mmeSessRemove s) ∧
      ∀ sess ∈ l, (l.foldl mmeSessRemove s).sesss.live sess ≠ true := by
  induction l generalizing s with
  | nil => exact ⟨h, Shrinks.refl s, by simp⟩
  | cons sess l ih =>
    have hl := List.nodup_cons.mp hl
    have hrest : ∀ σ ∈ l, (s.mmeSessRemove sess).sesss.live σ = true := by
      intro σ hσ
      rw [live_sessRemove h]
      refine ⟨?_, hlive σ (List.mem_cons_of_mem _ hσ)⟩
      rintro rfl
      exact hl.1 hσ
    obtain ⟨hlinked, hshrinks, hgone⟩ :=
      ih hl.2 (h.sessRemove (hlive sess List.mem_cons_self)) hrest
    refine ⟨hlinked, (shrinks_sessRemove h sess).trans hshrinks, ?_⟩
    intro σ hσ
    rcases List.mem_cons.mp hσ with rfl | hσ
    · intro hin
      exact ((live_sessRemove h).mp (hshrinks.sesss σ hin)).1 rfl
    · exact hgone σ hσ

/-! ## Removing a UE -/

/-- What is cleared in the record of a UE leaves its list and its last identity. -/
def clearMmeUe (s : MmeRecords) (mmeUe : MmeUeId) : MmeRecords :=
  { s with mmeUes := s.mmeUes.modify mmeUe MmeUeRecord.clear }

theorem mmeUeRemove_eq : s.mmeUeRemove mmeUe =
    { ((s.mmeUes.mem mmeUe).sessList.foldl mmeSessRemove (s.clearMmeUe mmeUe)) with
      mmeUes := ((s.mmeUes.mem mmeUe).sessList.foldl mmeSessRemove
        (s.clearMmeUe mmeUe)).mmeUes.free mmeUe } := by
  have hlist : ((s.clearMmeUe mmeUe).mmeUes.mem mmeUe).sessList =
      (s.mmeUes.mem mmeUe).sessList := by
    simp [clearMmeUe, MmeUeRecord.clear]
  rw [← hlist]
  rfl

theorem Linked.clearMmeUe (h : s.Linked) (mmeUe : MmeUeId) : (s.clearMmeUe mmeUe).Linked := by
  constructor
  · apply h.sesss.congr (fun _ => Iff.rfl) (fun _ => Iff.rfl) fun _ _ => rfl
    intro ue _
    simp only [MmeRecords.clearMmeUe, Pool.mem_modify]
    split
    · rename_i heq
      rw [heq]
      rfl
    · rfl
  · exact h.bearers
  · exact h.owner

/-- All sessions of the UE and their bearers are removed. -/
theorem ueRemove_spec (h : s.Linked) (hlive : s.mmeUes.live mmeUe = true) :
    (s.mmeUeRemove mmeUe).Linked ∧
      (∀ b, (s.mmeUeRemove mmeUe).bearers.live b = true → s.bearers.live b = true) ∧
      ∀ b, ((s.mmeUeRemove mmeUe).bearers.mem b).ebi = (s.bearers.mem b).ebi ∧
        ((s.mmeUeRemove mmeUe).bearers.mem b).mmeUe = (s.bearers.mem b).mmeUe := by
  have hlist := h.sesss.mem_iff mmeUe hlive
  obtain ⟨hlinked, hshrinks, hgone⟩ := foldl_sessRemove (s.mmeUes.mem mmeUe).sessList
    (h.sesss.nodup mmeUe hlive) (h.clearMmeUe mmeUe) fun sess hsess => ((hlist sess).mp hsess).1
  have hempty : (((s.mmeUes.mem mmeUe).sessList.foldl mmeSessRemove
      (s.clearMmeUe mmeUe)).mmeUes.mem mmeUe).sessList = [] := by
    rw [List.eq_nil_iff_forall_not_mem]
    intro sess hsess
    have hlive' : ((s.mmeUes.mem mmeUe).sessList.foldl mmeSessRemove
        (s.clearMmeUe mmeUe)).mmeUes.live mmeUe = true := by
      rw [hshrinks.mmeUes]
      exact hlive
    have hmem := (hlinked.sesss.mem_iff mmeUe hlive' sess).mp hsess
    apply hgone sess _ hmem.1
    rw [hlist]
    refine ⟨hshrinks.sesss sess hmem.1, ?_⟩
    rw [← hmem.2, hshrinks.sessUe]
    rfl
  rw [mmeUeRemove_eq]
  refine ⟨⟨?_, hlinked.bearers, hlinked.owner⟩, hshrinks.bearers, ?_⟩
  · apply hlinked.sesss.removeParent hempty
    · intro ue
      rw [Pool.live_free]
      split <;> simp [*]
    · exact fun _ _ => rfl
  · intro b
    exact ⟨(hshrinks.identity b).1, (hshrinks.identity b).2.1⟩

/-! ## Identities -/

/-- The identities of the bearers of each UE are between 5 and 15 and different. -/
structure DistinctEbi (s : MmeRecords) : Prop where
  range : ∀ bearer, s.bearers.live bearer = true →
    minEpsBearerId ≤ (s.bearers.mem bearer).ebi ∧ (s.bearers.mem bearer).ebi ≤ maxEpsBearerId
  distinct : ∀ b c, s.bearers.live b = true → s.bearers.live c = true →
    (s.bearers.mem b).mmeUe = (s.bearers.mem c).mmeUe →
    (s.bearers.mem b).ebi = (s.bearers.mem c).ebi → b = c

/-- The bearers of each UE have different identities between 5 and 15, and each bearer is found
with its identity. -/
structure UniqueEbi (s : MmeRecords) : Prop extends s.DistinctEbi where
  find : ∀ bearer, s.bearers.live bearer = true →
    s.mmeBearerFindByUeEbi (s.bearers.mem bearer).mmeUe (s.bearers.mem bearer).ebi = some bearer

/-- The search in the lists finds a bearer with the identity if the UE has one. -/
theorem find_of_linked (h : s.Linked) (hdistinct : s.DistinctEbi)
    (hlive : s.bearers.live bearer = true) :
    s.mmeBearerFindByUeEbi (s.bearers.mem bearer).mmeUe (s.bearers.mem bearer).ebi =
      some bearer := by
  have hbearer := h.bearers.mem hlive
  have hsess := h.sesss.mem (h.bearers.live bearer hlive)
  rw [← h.owner bearer hlive] at hsess
  have hue := h.sesss.live _ (h.bearers.live bearer hlive)
  rw [← h.owner bearer hlive] at hue
  cases hfind : s.mmeBearerFindByUeEbi (s.bearers.mem bearer).mmeUe
    (s.bearers.mem bearer).ebi with
  | none =>
    rw [mmeBearerFindByUeEbi, List.findSome?_eq_none_iff] at hfind
    have hnone := List.find?_eq_none.mp (hfind _ hsess) bearer hbearer
    simp at hnone
  | some b =>
    obtain ⟨sess, hmem, hb⟩ := List.exists_of_findSome?_eq_some hfind
    have hebi := List.find?_some hb
    have hσ := (h.sesss.mem_iff _ hue sess).mp hmem
    have hin := (h.bearers.mem_iff sess hσ.1 b).mp (List.mem_of_find?_eq_some hb)
    congr 1
    apply hdistinct.distinct b bearer hin.1 hlive
    · rw [h.owner b hin.1, hin.2]
      exact hσ.2
    · simpa using hebi

theorem DistinctEbi.of_subset (h : s.DistinctEbi)
    (hlive : ∀ b, t.bearers.live b = true → s.bearers.live b = true)
    (hidentity : ∀ b, (t.bearers.mem b).ebi = (s.bearers.mem b).ebi ∧
      (t.bearers.mem b).mmeUe = (s.bearers.mem b).mmeUe) : t.DistinctEbi := by
  constructor
  · intro b hb
    rw [(hidentity b).1]
    exact h.range b (hlive b hb)
  · intro b c hb hc hue hebi
    rw [(hidentity b).1, (hidentity c).1] at hebi
    rw [(hidentity b).2, (hidentity c).2] at hue
    exact h.distinct b c (hlive b hb) (hlive c hc) hue hebi

/-- The next identity for the UE is one that none of its bearers has. -/
def FreshEbi [Ogslib] (s : MmeRecords) (mmeUe : MmeUeId) : Prop :=
  (minEpsBearerId ≤ nextEbi (s.mmeUes.mem mmeUe).ebi ∧
    nextEbi (s.mmeUes.mem mmeUe).ebi ≤ maxEpsBearerId) ∧
    ∀ b, s.bearers.live b = true → (s.bearers.mem b).mmeUe = mmeUe →
      (s.bearers.mem b).ebi ≠ nextEbi (s.mmeUes.mem mmeUe).ebi

/-- When an operation keeps the identities unique. -/
def KeepsEbi [Ogslib] (s : MmeRecords) : Op → Prop
  | .mmeSessAdd _ _ mmeUe _ => s.FreshEbi mmeUe
  | .mmeBearerAdd _ sess => s.FreshEbi (s.sesss.mem sess).mmeUe
  | _ => True

/-- A bearer with the next identity is added. -/
theorem distinctEbi_add_iff [Ogslib] (h : s.DistinctEbi) (mmeUe : MmeUeId)
    (hfree : s.bearers.live bearer = false)
    (hlive : ∀ b, t.bearers.live b = true ↔ b = bearer ∨ s.bearers.live b = true)
    (hother : ∀ b, b ≠ bearer → (t.bearers.mem b).ebi = (s.bearers.mem b).ebi ∧
      (t.bearers.mem b).mmeUe = (s.bearers.mem b).mmeUe)
    (hebi : (t.bearers.mem bearer).ebi = nextEbi (s.mmeUes.mem mmeUe).ebi)
    (hue : (t.bearers.mem bearer).mmeUe = mmeUe) : t.DistinctEbi ↔ s.FreshEbi mmeUe := by
  have hne : ∀ b, s.bearers.live b = true → b ≠ bearer := by
    rintro b hb rfl
    rw [hfree] at hb
    cases hb
  constructor
  · intro ht
    constructor
    · rw [← hebi]
      exact ht.range bearer ((hlive bearer).mpr (Or.inl rfl))
    · intro b hb hbue heq
      apply hne b hb
      apply ht.distinct b bearer
      · exact (hlive b).mpr (Or.inr hb)
      · exact (hlive bearer).mpr (Or.inl rfl)
      · rw [(hother b (hne b hb)).2, hbue, hue]
      · rw [(hother b (hne b hb)).1, heq, hebi]
  · rintro ⟨hrange, hfresh⟩
    constructor
    · intro b hb
      rcases (hlive b).mp hb with rfl | hb
      · rw [hebi]
        exact hrange
      · rw [(hother b (hne b hb)).1]
        exact h.range b hb
    · intro b c hb hc hbc heq
      rcases (hlive b).mp hb with rfl | hb
      · rcases (hlive c).mp hc with rfl | hc
        · rfl
        · exfalso
          apply hfresh c hc
          · rw [← (hother c (hne c hc)).2, ← hbc, hue]
          · rw [← (hother c (hne c hc)).1, ← heq, hebi]
      · rcases (hlive c).mp hc with rfl | hc
        · exfalso
          apply hfresh b hb
          · rw [← (hother b (hne b hb)).2, hbc, hue]
          · rw [← (hother b (hne b hb)).1, heq, hebi]
        · rw [(hother b (hne b hb)).1, (hother c (hne c hc)).1] at heq
          rw [(hother b (hne b hb)).2, (hother c (hne c hc)).2] at hbc
          exact h.distinct b c hb hc hbc heq

/-! ## Adding bearers and sessions -/

section
variable [Ogslib]

theorem Linked.bearerAdd (h : s.Linked) (hfree : s.bearers.live bearer = false)
    (hsess : s.sesss.live sess = true) : (s.mmeBearerAdd bearer sess).Linked := by
  have hsessUe : ∀ σ, ((s.mmeBearerAdd bearer sess).sesss.mem σ).mmeUe =
      (s.sesss.mem σ).mmeUe := by
    intro σ
    rw [sesss_mmeBearerAdd, Pool.mem_modify]
    split
    · rename_i heq
      rw [heq]
    · rfl
  constructor
  · apply h.sesss.congr
    · exact fun _ => Iff.rfl
    · exact fun _ => Iff.rfl
    · exact fun σ _ => hsessUe σ
    · intro ue _
      rw [mmeUes_mmeBearerAdd, Pool.mem_modify]
      split
      · rename_i heq
        rw [heq]
      · rfl
  · apply h.bearers.addChild (c := bearer) hsess
    · simp [hfree]
    · exact fun _ => Iff.rfl
    · intro b
      by_cases hb : b = bearer
      · simp [bearers_mmeBearerAdd, hb]
      · simp [bearers_mmeBearerAdd, hb]
    · simp [bearers_mmeBearerAdd, MmeBearerRecord.add]
    · intro b hb
      simp [bearers_mmeBearerAdd, hb]
    · simp [sesss_mmeBearerAdd]
    · intro σ hσ
      simp [sesss_mmeBearerAdd, hσ]
  · intro b hb
    rw [hsessUe]
    by_cases hbb : b = bearer
    · simp [bearers_mmeBearerAdd, hbb, MmeBearerRecord.add]
    · simp only [bearers_mmeBearerAdd, Pool.live_modify, Pool.live_alloc, if_neg hbb] at hb
      simp only [bearers_mmeBearerAdd, Pool.mem_modify, if_neg hbb, Pool.mem_alloc]
      exact h.owner b hb

/-- The records after a session is added. -/
theorem sessAdd_frame (s : MmeRecords) (sess : MmeSessId) (bearer : MmeBearerId)
    (mmeUe : MmeUeId) (pti : UInt8) :
    (s.mmeSessAdd sess bearer mmeUe pti).mmeUes = (s.mmeUes.modify mmeUe fun m =>
        { m with ebi := nextEbi (s.mmeUes.mem mmeUe).ebi }).modify mmeUe (fun m =>
          { m with sessList := m.sessList ++ [sess] }) ∧
      (s.mmeSessAdd sess bearer mmeUe pti).sesss = ((s.sesss.alloc sess).modify sess fun m =>
        m.add mmeUe pti).modify sess (fun m => { m with bearerList := m.bearerList ++ [bearer] }) ∧
      (s.mmeSessAdd sess bearer mmeUe pti).bearers =
        (s.bearers.alloc bearer).modify bearer fun m =>
          m.add (nextEbi (s.mmeUes.mem mmeUe).ebi) mmeUe sess := by
  refine ⟨?_, ?_, ?_⟩
  · simp [mmeSessAdd, mmeUes_mmeBearerAdd, MmeSessRecord.add]
  · simp [mmeSessAdd, sesss_mmeBearerAdd]
  · simp [mmeSessAdd, bearers_mmeBearerAdd, MmeSessRecord.add]

theorem Linked.sessAdd {pti : UInt8} (h : s.Linked) (hslot : s.sesss.live sess = false)
    (hfree : s.bearers.live bearer = false) (hue : s.mmeUes.live mmeUe = true) :
    (s.mmeSessAdd sess bearer mmeUe pti).Linked := by
  obtain ⟨hues, hsesss, hbearers⟩ := sessAdd_frame s sess bearer mmeUe pti
  -- no bearer points to the free slot of the session
  have hnone : ∀ b, s.bearers.live b = true → (s.bearers.mem b).sess ≠ sess := by
    intro b hb heq
    have hlive := h.bearers.live b hb
    rw [heq, hslot] at hlive
    cases hlive
  constructor
  · apply h.sesss.addChild (c := sess) hue
    · simp [hslot]
    · intro ue
      simp [hues]
    · intro σ
      by_cases hσ : σ = sess
      · simp [hsesss, hσ]
      · simp [hsesss, hσ]
    · simp [hsesss, MmeSessRecord.add]
    · intro σ hσ
      simp [hsesss, hσ]
    · simp [hues]
    · intro ue hne
      simp [hues, hne]
  · have hparent : Family.Linked
        (fun σ => (s.mmeSessAdd sess bearer mmeUe pti).sesss.live σ = true)
        (fun b => s.bearers.live b = true) (fun b => (s.bearers.mem b).sess)
        (Function.update (fun σ => (s.sesss.mem σ).bearerList) sess []) := by
      apply h.bearers.addParent (p := sess)
      · simp [hslot]
      · intro σ
        by_cases hσ : σ = sess
        · simp [hsesss, hσ]
        · simp [hsesss, hσ]
      · exact Function.update_self _ _ _
      · intro σ hσ
        exact Function.update_of_ne hσ _ _
    apply hparent.addChild (c := bearer) (p := sess)
    · simp [hsesss]
    · simp [hfree]
    · exact fun _ => Iff.rfl
    · intro b
      by_cases hb : b = bearer
      · simp [hbearers, hb]
      · simp [hbearers, hb]
    · simp [hbearers, MmeBearerRecord.add]
    · intro b hb
      simp [hbearers, hb]
    · simp [hsesss, MmeSessRecord.add]
    · intro σ hσ
      simp [hsesss, hσ]
  · intro b hb
    by_cases hbb : b = bearer
    · simp [hbearers, hsesss, hbb, MmeBearerRecord.add, MmeSessRecord.add]
    · simp only [hbearers, Pool.live_modify, Pool.live_alloc, if_neg hbb] at hb
      simp only [hbearers, hsesss, Pool.mem_modify, if_neg hbb, if_neg (hnone b hb),
        Pool.mem_alloc]
      exact h.owner b hb

/-! ## Runs -/

theorem Linked.step (h : s.Linked) (hstep : Step s op t) : t.Linked := by
  obtain ⟨hadmits, rfl⟩ := hstep
  cases op with
  | enbUeAdd enbUe enb mmeUeS1apId enbOstreamId => exact ⟨h.sesss, h.bearers, h.owner⟩
  | enbUeRemove enbUe => exact ⟨h.sesss, h.bearers, h.owner⟩
  | mmeUeAdd mmeUe mTmsi guti gnode =>
    refine ⟨?_, h.bearers, h.owner⟩
    apply h.sesss.addParent (p := mmeUe)
    · rw [hadmits]
      exact Bool.false_ne_true
    · intro ue
      by_cases hue : ue = mmeUe
      · simp [apply, MmeRecords.mmeUeAdd, hue]
      · simp [apply, MmeRecords.mmeUeAdd, hue]
    · simp [apply, MmeRecords.mmeUeAdd, MmeUeRecord.add]
    · intro ue hue
      simp [apply, MmeRecords.mmeUeAdd, hue]
  | mmeUeRemove mmeUe => exact (ueRemove_spec h hadmits).1
  | mmeSessAdd sess bearer mmeUe pti => exact h.sessAdd hadmits.1 hadmits.2.1 hadmits.2.2
  | mmeSessRemove sess => exact h.sessRemove hadmits
  | mmeBearerAdd bearer sess => exact h.bearerAdd hadmits.1 hadmits.2
  | mmeBearerRemove bearer => exact h.bearerRemove bearer
  | clearEpsBearerId mmeUe =>
    refine ⟨?_, h.bearers, h.owner⟩
    apply h.sesss.congr (fun _ => Iff.rfl) (fun _ => Iff.rfl) fun _ _ => rfl
    intro ue _
    simp only [apply, MmeRecords.clearEpsBearerId, Pool.mem_modify]
    split
    · rename_i heq
      rw [heq]
    · rfl
  | setMmeUe mmeUe r =>
    refine ⟨?_, h.bearers, h.owner⟩
    apply h.sesss.congr (fun _ => Iff.rfl) (fun _ => Iff.rfl) fun _ _ => rfl
    intro ue _
    simp only [apply, MmeRecords.setMmeUe, Pool.mem_modify]
    split
    · rename_i heq
      rw [heq]
    · rfl
  | setEnbUe enbUe r => exact ⟨h.sesss, h.bearers, h.owner⟩
  | setSess sess r =>
    have hsess : ∀ σ, ((s.apply (.setSess sess r)).sesss.mem σ).mmeUe = (s.sesss.mem σ).mmeUe ∧
        ((s.apply (.setSess sess r)).sesss.mem σ).bearerList = (s.sesss.mem σ).bearerList := by
      intro σ
      simp only [apply, MmeRecords.setSess, Pool.mem_modify]
      split
      · rename_i heq
        rw [heq]
        exact ⟨rfl, rfl⟩
      · exact ⟨rfl, rfl⟩
    constructor
    · exact h.sesss.congr (fun _ => Iff.rfl) (fun _ => Iff.rfl) (fun σ _ => (hsess σ).1)
        fun _ _ => rfl
    · exact h.bearers.congr (fun _ => Iff.rfl) (fun _ => Iff.rfl) (fun _ _ => rfl)
        fun σ _ => (hsess σ).2
    · intro b hb
      rw [(hsess _).1]
      exact h.owner b hb
  | setBearer bearer r =>
    have hbearer : ∀ b, ((s.apply (.setBearer bearer r)).bearers.mem b).sess =
        (s.bearers.mem b).sess ∧
        ((s.apply (.setBearer bearer r)).bearers.mem b).mmeUe = (s.bearers.mem b).mmeUe := by
      intro b
      simp only [apply, MmeRecords.setBearer, Pool.mem_modify]
      split
      · rename_i heq
        rw [heq]
        exact ⟨rfl, rfl⟩
      · exact ⟨rfl, rfl⟩
    constructor
    · exact h.sesss
    · exact h.bearers.congr (fun _ => Iff.rfl) (fun _ => Iff.rfl) (fun b _ => (hbearer b).1)
        fun _ _ => rfl
    · intro b hb
      rw [(hbearer b).1, (hbearer b).2]
      exact h.owner b hb

/-- A step keeps the identities unique exactly if it does not give out one that is in use. -/
theorem distinctEbi_iff_keeps (h : s.Linked) (hebi : s.DistinctEbi) (hstep : Step s op t) :
    t.DistinctEbi ↔ s.KeepsEbi op := by
  obtain ⟨hadmits, rfl⟩ := hstep
  have hsame : (∀ b, (s.apply op).bearers.live b = true → s.bearers.live b = true) →
      (∀ b, ((s.apply op).bearers.mem b).ebi = (s.bearers.mem b).ebi ∧
        ((s.apply op).bearers.mem b).mmeUe = (s.bearers.mem b).mmeUe) →
      (s.apply op).DistinctEbi := hebi.of_subset
  cases op with
  | mmeUeRemove mmeUe =>
    obtain ⟨-, hlive, hidentity⟩ := ueRemove_spec h hadmits
    exact iff_of_true (hsame hlive hidentity) trivial
  | mmeSessAdd sess bearer mmeUe pti =>
    obtain ⟨-, -, hbearers⟩ := sessAdd_frame s sess bearer mmeUe pti
    apply distinctEbi_add_iff hebi mmeUe hadmits.2.1
    · intro b
      by_cases hb : b = bearer
      · simp [apply, hbearers, hb]
      · simp [apply, hbearers, hb]
    · intro b hb
      simp [apply, hbearers, hb]
    · simp [apply, hbearers, MmeBearerRecord.add]
    · simp [apply, hbearers, MmeBearerRecord.add]
  | mmeSessRemove sess =>
    have hshrinks := shrinks_sessRemove h sess
    exact iff_of_true (hsame hshrinks.bearers fun b =>
      ⟨(hshrinks.identity b).1, (hshrinks.identity b).2.1⟩) trivial
  | mmeBearerAdd bearer sess =>
    apply distinctEbi_add_iff hebi (s.sesss.mem sess).mmeUe hadmits.1
    · intro b
      by_cases hb : b = bearer
      · simp [apply, bearers_mmeBearerAdd, hb]
      · simp [apply, bearers_mmeBearerAdd, hb]
    · intro b hb
      simp [apply, bearers_mmeBearerAdd, hb]
    · simp [apply, bearers_mmeBearerAdd, MmeBearerRecord.add]
    · simp [apply, bearers_mmeBearerAdd, MmeBearerRecord.add]
  | mmeBearerRemove bearer =>
    have hshrinks := shrinks_bearerRemove s bearer
    exact iff_of_true (hsame hshrinks.bearers fun b =>
      ⟨(hshrinks.identity b).1, (hshrinks.identity b).2.1⟩) trivial
  | setBearer bearer r =>
    apply iff_of_true (hsame (fun _ => id) _) trivial
    intro b
    simp only [apply, MmeRecords.setBearer, Pool.mem_modify]
    split
    · rename_i heq
      rw [heq]
      exact ⟨rfl, rfl⟩
    · exact ⟨rfl, rfl⟩
  | _ => exact iff_of_true (hsame (fun _ => id) fun _ => ⟨rfl, rfl⟩) trivial

omit [Ogslib] in
theorem linked_initial : initial.Linked := by
  have hnone : ∀ i : Nat, ¬false = true := fun _ => Bool.false_ne_true
  refine ⟨Family.linked_of_none hnone hnone, Family.linked_of_none hnone hnone, ?_⟩
  intro b hb
  cases hb

/-- In every run the identities are unique if and only if no identity is given out that is in
use. -/
theorem uniqueEbi_run_iff (tr : List (Op × MmeRecords)) (htrace : Lts.Trace Step initial tr) :
    (∀ p ∈ tr, p.2.UniqueEbi) ↔ Lts.Trace (Lts.Restrict KeepsEbi Step) initial tr := by
  apply Lts.Trace.invariant_iff (I := UniqueEbi) (J := Linked) (C := KeepsEbi)
  · intro s op t hs hstep
    exact hs.step hstep
  · intro s op t hs hebi hstep
    rw [← distinctEbi_iff_keeps hs hebi.toDistinctEbi hstep]
    constructor
    · exact UniqueEbi.toDistinctEbi
    · intro ht
      exact ⟨ht, fun b hb => find_of_linked (hs.step hstep) ht hb⟩
  · exact htrace
  · exact linked_initial
  · constructor
    · constructor
      · intro b hb
        cases hb
      · intro b c hb
        cases hb
    · intro b hb
      cases hb

end

/-- A UE attaches. -/
def attached : MmeRecords := (initial.mmeUeAdd 1 0 .blank 0).clearEpsBearerId 1

/-- It gets a session with a default bearer. -/
def connected : MmeRecords := @mmeSessAdd attached Ogslib.reference 1 1 1 1

theorem trace_connected : @Lts.Trace _ _ (@Step Ogslib.reference) initial
    [(.mmeUeAdd 1 0 .blank 0, initial.mmeUeAdd 1 0 .blank 0), (.clearEpsBearerId 1, attached),
      (.mmeSessAdd 1 1 1 1, connected)] := by
  apply Lts.Trace.cons ⟨rfl, rfl⟩
  apply Lts.Trace.cons ⟨rfl, rfl⟩
  apply Lts.Trace.cons ⟨⟨rfl, rfl, rfl⟩, rfl⟩
  exact Lts.Trace.nil _

/-- The default bearer is found with its identity. -/
theorem uniqueEbi_run_attach : connected.mmeBearerFindByUeEbi 1 5 = some 1 := by
  have hfresh : @FreshEbi Ogslib.reference attached 1 := by
    constructor
    · decide
    · intro b hb
      cases hb
  have hkeeps : @Lts.Trace _ _ (Lts.Restrict (@KeepsEbi Ogslib.reference) (@Step Ogslib.reference))
      initial [(.mmeUeAdd 1 0 .blank 0, initial.mmeUeAdd 1 0 .blank 0),
        (.clearEpsBearerId 1, attached), (.mmeSessAdd 1 1 1 1, connected)] := by
    apply Lts.Trace.cons ⟨trivial, rfl, rfl⟩
    apply Lts.Trace.cons ⟨trivial, rfl, rfl⟩
    apply Lts.Trace.cons ⟨hfresh, ⟨rfl, rfl, rfl⟩, rfl⟩
    exact Lts.Trace.nil _
  have hunique := (@uniqueEbi_run_iff Ogslib.reference _ trace_connected).mpr hkeeps
    (.mmeSessAdd 1 1 1 1, connected) (by simp)
  exact hunique.find 1 rfl

/-- The UE attaches once more while it has a bearer, and gets a second session: both default
bearers have the identity 5. -/
theorem uniqueEbi_attach_again : ¬∀ (lib : Ogslib) (tr : List (Op × MmeRecords)),
    Lts.Trace (@Step lib) initial tr → ∀ p ∈ tr, p.2.UniqueEbi := by
  intro hclaim
  let again := @mmeSessAdd (connected.clearEpsBearerId 1) Ogslib.reference 2 2 1 2
  have htrace : @Lts.Trace _ _ (@Step Ogslib.reference) initial
      [(.mmeUeAdd 1 0 .blank 0, initial.mmeUeAdd 1 0 .blank 0), (.clearEpsBearerId 1, attached),
        (.mmeSessAdd 1 1 1 1, connected),
        (.clearEpsBearerId 1, connected.clearEpsBearerId 1), (.mmeSessAdd 2 2 1 2, again)] := by
    apply Lts.Trace.cons ⟨rfl, rfl⟩
    apply Lts.Trace.cons ⟨rfl, rfl⟩
    apply Lts.Trace.cons ⟨⟨rfl, rfl, rfl⟩, rfl⟩
    apply Lts.Trace.cons ⟨rfl, rfl⟩
    apply Lts.Trace.cons ⟨⟨rfl, rfl, rfl⟩, rfl⟩
    exact Lts.Trace.nil _
  have hlast := hclaim Ogslib.reference _ htrace (.mmeSessAdd 2 2 1 2, again) (by simp)
  have heq := hlast.distinct 1 2 rfl rfl rfl rfl
  cases heq

end MmeRecords
end NextEpc

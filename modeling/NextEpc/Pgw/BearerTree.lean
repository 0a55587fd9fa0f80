import NextEpc.Lib.Family
import NextEpc.Pgw.Handlers
import NextEpc.Pgw.UeIpRun

/-!
# Sessions, their bearers and the packet filters of these

Sessions and bearers, and bearers and packet filters, are linked both ways. Adding and removing
keep this, and the list of the sessions, in every run.
-/

namespace NextEpc
namespace PgwContext
variable {cfg : PgwConfig} {compile : CString → Option PgwRule} {s t u : PgwContext}
  {sess : PgwSessId} {bearer : PgwBearerId} {pf : PgwPfId} {flows : List (Flow × PgwPfId)}

/-- The lists of packet filters agree with the pointers to bearers. -/
abbrev LinkedFilters (s : PgwContext) : Prop :=
  Family.Linked (fun bearer => s.bearers.live bearer = true) (fun pf => s.pfs.live pf = true)
    (fun pf => (s.pfs.mem pf).bearer) (fun bearer => (s.bearers.mem bearer).pfList)

/-- So do the lists of bearers with the pointers to sessions. -/
structure Links (s : PgwContext) : Prop where
  bearers : Family.Linked (fun sess => s.sess.live sess = true)
    (fun bearer => s.bearers.live bearer = true) (fun bearer => (s.bearers.mem bearer).sess)
    (fun sess => (s.sessMem sess).bearerList)
  filters : s.LinkedFilters

/-- The sessions in use are listed once. -/
structure Tree (s : PgwContext) : Prop extends s.Links where
  nodup : s.sessList.Nodup
  mem_sessList : ∀ sess, sess ∈ s.sessList ↔ s.sess.live sess = true

theorem Links.bearer_of_mem (h : s.Links) (hlive : s.bearers.live bearer = true) :
    ∀ pf ∈ (s.bearers.mem bearer).pfList, (s.pfs.mem pf).bearer = bearer := by
  intro pf hpf
  exact ((h.filters.mem_iff bearer hlive pf).mp hpf).2

/-! ## Writes to other fields -/

/-- The lists and the pointers to parents are the same. -/
structure SameShape (s t : PgwContext) : Prop where
  sess : t.sess.live = s.sess.live
  bearerList : ∀ sess, (t.sessMem sess).bearerList = (s.sessMem sess).bearerList
  bearers : t.bearers.live = s.bearers.live
  bearer : ∀ bearer, (t.bearers.mem bearer).sess = (s.bearers.mem bearer).sess ∧
    (t.bearers.mem bearer).pfList = (s.bearers.mem bearer).pfList
  pfs : t.pfs.live = s.pfs.live
  pf : ∀ pf, (t.pfs.mem pf).bearer = (s.pfs.mem pf).bearer

theorem SameShape.links (h : s.SameShape t) (hs : s.Links) : t.Links := by
  constructor
  · apply hs.bearers.congr
    · simp [h.sess]
    · simp [h.bearers]
    · exact fun b _ => (h.bearer b).1
    · exact fun σ _ => h.bearerList σ
  · apply hs.filters.congr
    · simp [h.bearers]
    · simp [h.pfs]
    · exact fun pf _ => h.pf pf
    · exact fun b _ => (h.bearer b).2

theorem sameShape_setSess {f : PgwSessRecord → PgwSessRecord}
    (hf : ∀ m, (f m).bearerList = m.bearerList) : s.SameShape (s.setSess sess f) := by
  refine ⟨rfl, ?_, rfl, fun _ => ⟨rfl, rfl⟩, rfl, fun _ => rfl⟩
  intro σ
  by_cases hσ : σ = sess
  · simp [setSess, hσ, hf]
  · simp [setSess, hσ]

theorem sameShape_setBearer {f : PgwBearerRecord → PgwBearerRecord}
    (hf : ∀ m, (f m).sess = m.sess ∧ (f m).pfList = m.pfList) :
    s.SameShape (s.setBearer bearer f) := by
  refine ⟨rfl, fun _ => rfl, rfl, ?_, rfl, fun _ => rfl⟩
  intro b
  exact ⟨Pool.apply_mem_modify fun m => (hf m).1, Pool.apply_mem_modify fun m => (hf m).2⟩

/-! ## Packet filters -/

/-- Filters of one bearer are removed. -/
theorem foldl_pfRemove (l : List PgwPfId) (s : PgwContext) (bearer : PgwBearerId)
    (hl : ∀ pf ∈ l, (s.pfs.mem pf).bearer = bearer) : l.foldl pgwPfRemove s =
      { s with
        bearers := s.bearers.modify bearer fun m => { m with pfList := m.pfList.diff l }
        pfs := l.foldl Pool.free s.pfs } := by
  induction l generalizing s with
  | nil =>
    rw [Pool.modify_eq_self]
    · rfl
    · rfl
  | cons pf l ih =>
    have hpf := hl pf List.mem_cons_self
    have hrest : ∀ pf' ∈ l, ((s.pgwPfRemove pf).pfs.mem pf').bearer = bearer := by
      intro pf' hpf'
      exact hl pf' (List.mem_cons_of_mem _ hpf')
    rw [List.foldl_cons, ih _ hrest, pgwPfRemove, hpf]
    dsimp only
    rw [Pool.modify_modify]
    simp only [List.foldl_cons, List.diff_cons]

theorem diff_self (l : List PgwPfId) : l.diff l = [] := by
  induction l with
  | nil => rfl
  | cons pf l ih => rw [List.diff_cons, List.erase_cons_head, ih]

/-- The filters of a bearer are gone. -/
theorem pgwPfRemoveAll_eq (h : ∀ pf ∈ (s.bearers.mem bearer).pfList,
    (s.pfs.mem pf).bearer = bearer) : s.pgwPfRemoveAll bearer =
      { s with
        bearers := s.bearers.modify bearer fun m => { m with pfList := [] }
        pfs := (s.bearers.mem bearer).pfList.foldl Pool.free s.pfs } := by
  rw [pgwPfRemoveAll, foldl_pfRemove _ s bearer h]
  simp only [Pool.modify, diff_self]

theorem Links.pfRemoveAll (h : s.Links) (hlive : s.bearers.live bearer = true) :
    (s.pgwPfRemoveAll bearer).Links := by
  rw [pgwPfRemoveAll_eq (h.bearer_of_mem hlive)]
  constructor
  · apply h.bearers.congr (fun _ => Iff.rfl) (fun _ => Iff.rfl)
    · intro b _
      simp only [Pool.mem_modify]
      split <;> simp [*]
    · exact fun _ _ => rfl
  · have hmem := h.filters.mem_iff bearer hlive
    constructor
    · intro b hb
      simp only [Pool.mem_modify]
      split
      · exact List.nodup_nil
      · exact h.filters.nodup b hb
    · intro b hb pf
      simp only [Pool.mem_modify, Pool.live_foldl_free, Pool.mem_foldl_free, hmem pf]
      have hb := h.filters.mem_iff b hb pf
      split
      · rename_i hbb
        subst hbb
        simp only [List.not_mem_nil, false_iff]
        grind
      · rename_i hbb
        rw [hb]
        grind
    · intro pf hpf
      simp only [Pool.live_foldl_free, Pool.mem_foldl_free, Pool.live_modify] at hpf ⊢
      apply h.filters.live
      grind

/-- What is known of a state in which a bearer has some more filters. -/
structure AddsFilters [Ogslib] (compile : CString → Option PgwRule) (s : PgwContext)
    (bearer : PgwBearerId) (flows : List (Flow × PgwPfId)) (t : PgwContext) : Prop where
  toPgw : t.toPgw = s.toPgw
  sessMem : t.sessMem = s.sessMem
  sessList : t.sessList = s.sessList
  live : t.bearers.live = s.bearers.live
  record : t.bearers.mem bearer = { s.bearers.mem bearer with
    pfIdentifier := nextPfIdentifier^[flows.length] (s.bearers.mem bearer).pfIdentifier
    pfList := (s.bearers.mem bearer).pfList ++ flows.map Prod.snd }
  other : ∀ b, b ≠ bearer → t.bearers.mem b = s.bearers.mem b
  pfLive : ∀ pf, t.pfs.live pf = true ↔ pf ∈ flows.map Prod.snd ∨ s.pfs.live pf = true
  filter : ∀ pf, pf ∉ flows.map Prod.snd → t.pfs.mem pf = s.pfs.mem pf
  nodup : (flows.map Prod.snd).Nodup
  free : ∀ pf ∈ flows.map Prod.snd, s.pfs.live pf = false
  new : ∀ i f, flows[i]? = some f → ∃ rule, f.1.description.bind compile = some rule ∧
    t.pfs.mem f.2 = ⟨f.1.direction % 4,
      nextPfIdentifier^[i + 1] (s.bearers.mem bearer).pfIdentifier % 16, rule, bearer⟩

theorem AddsFilters.added [Ogslib] (h : AddsFilters compile s bearer flows t) :
    ∀ pf ∈ flows.map Prod.snd, (t.pfs.mem pf).bearer = bearer := by
  intro pf hpf
  obtain ⟨f, hf, rfl⟩ := List.mem_map.mp hpf
  obtain ⟨i, hi⟩ := List.mem_iff_getElem?.mp hf
  obtain ⟨rule, -, hrecord⟩ := h.new i f hi
  rw [hrecord]

theorem addsFilters_nil [Ogslib] (s : PgwContext) (bearer : PgwBearerId) :
    AddsFilters compile s bearer [] s := by
  constructor
  all_goals simp

/-- One more filter. -/
theorem addsFilters_one [Ogslib] {precedence : UInt32} {flow : Flow}
    (h : s.addFlow compile bearer precedence flow pf = some t) :
    AddsFilters compile s bearer [(flow, pf)] t := by
  simp only [addFlow, pgwPfAdd, Option.bind_eq_bind, Option.bind_eq_some_iff,
    Option.ite_none_right_eq_some, Option.some.injEq] at h
  obtain ⟨description, hdescription, rule, hrule, _, ⟨hfree, rfl⟩, rfl⟩ := h
  constructor
  · rfl
  · rfl
  · rfl
  · rfl
  · simp
  · intro b hb
    simp [hb]
  · intro pf'
    simp only [Pool.live_modify, Pool.live_alloc, List.map_singleton, List.mem_singleton]
    split <;> simp [*]
  · intro pf' hpf'
    simp only [List.map_singleton, List.mem_singleton] at hpf'
    simp [hpf']
  · exact List.nodup_singleton pf
  · simpa using hfree
  · intro i f hf
    obtain ⟨rfl, rfl⟩ : i = 0 ∧ (flow, pf) = f := by
      cases i with
      | zero => exact ⟨rfl, by simpa using hf⟩
      | succ i => simp at hf
    refine ⟨rule, by simp [hdescription, hrule], ?_⟩
    simp [PgwPfRecord.add]

theorem AddsFilters.append [Ogslib] {flows' : List (Flow × PgwPfId)}
    (h : AddsFilters compile s bearer flows t) (h' : AddsFilters compile t bearer flows' u) :
    AddsFilters compile s bearer (flows ++ flows') u := by
  have hfree : ∀ pf ∈ flows'.map Prod.snd, pf ∉ flows.map Prod.snd ∧ s.pfs.live pf = false := by
    intro pf hpf
    have hnot := h'.free pf hpf
    rw [← Bool.not_eq_true, h.pfLive] at hnot
    rw [← Bool.not_eq_true]
    exact not_or.mp hnot
  constructor
  · exact h'.toPgw.trans h.toPgw
  · exact h'.sessMem.trans h.sessMem
  · exact h'.sessList.trans h.sessList
  · exact h'.live.trans h.live
  · rw [h'.record, h.record, List.length_append, Nat.add_comm, Function.iterate_add_apply,
      List.map_append, List.append_assoc]
  · intro b hb
    exact (h'.other b hb).trans (h.other b hb)
  · intro pf
    rw [h'.pfLive, h.pfLive, List.map_append, List.mem_append]
    tauto
  · intro pf hpf
    rw [List.map_append, List.mem_append, not_or] at hpf
    exact (h'.filter pf hpf.2).trans (h.filter pf hpf.1)
  · rw [List.map_append, List.nodup_append]
    refine ⟨h.nodup, h'.nodup, ?_⟩
    rintro pf hpf _ hpf' rfl
    exact (hfree pf hpf').1 hpf
  · intro pf hpf
    rw [List.map_append] at hpf
    rcases List.mem_append.mp hpf with hpf | hpf
    · exact h.free pf hpf
    · exact (hfree pf hpf).2
  · intro i f hf
    rw [List.getElem?_append] at hf
    split at hf
    · obtain ⟨rule, hrule, hrecord⟩ := h.new i f hf
      refine ⟨rule, hrule, ?_⟩
      rw [← hrecord]
      apply h'.filter
      intro hin
      exact (hfree f.2 hin).1 (List.mem_map_of_mem (List.mem_of_getElem? hf))
    · rename_i hlength
      obtain ⟨rule, hrule, hrecord⟩ := h'.new (i - flows.length) f hf
      refine ⟨rule, hrule, ?_⟩
      have hi : i + 1 = i - flows.length + 1 + flows.length := by omega
      have hiterate := Function.iterate_add_apply nextPfIdentifier (i - flows.length + 1)
        flows.length (s.bearers.mem bearer).pfIdentifier
      rw [hrecord, h.record, hi, hiterate]

/-- The flows of a rule are added one after the other. -/
theorem addsFilters_of_addFlows [Ogslib] {precedence : UInt32}
    (h : s.addFlows compile bearer precedence flows = some t) :
    AddsFilters compile s bearer flows t := by
  induction flows generalizing s with
  | nil =>
    cases h
    exact addsFilters_nil _ bearer
  | cons f flows ih =>
    rw [addFlows, List.foldlM_cons] at h
    obtain ⟨r, hfirst, hrest⟩ := Option.bind_eq_some_iff.mp h
    exact (addsFilters_one hfirst).append (ih hrest)

theorem AddsFilters.owner [Ogslib] (h : AddsFilters compile s bearer flows t) (b : PgwBearerId) :
    (t.bearers.mem b).sess = (s.bearers.mem b).sess := by
  by_cases hb : b = bearer
  · rw [hb, h.record]
  · rw [h.other b hb]

theorem Links.addsFilters [Ogslib] (h : s.Links) (hlive : s.bearers.live bearer = true)
    (hadds : AddsFilters compile s bearer flows t) : t.Links := by
  have hold : ∀ pf, s.pfs.live pf = true → t.pfs.mem pf = s.pfs.mem pf := by
    intro pf hpf
    apply hadds.filter
    intro hnew
    rw [hadds.free pf hnew] at hpf
    cases hpf
  constructor
  · apply h.bearers.congr
    · simp [hadds.toPgw]
    · simp [hadds.live]
    · exact fun b _ => hadds.owner b
    · simp [hadds.sessMem]
  · constructor
    · intro b hb
      rw [hadds.live] at hb
      by_cases hbb : b = bearer
      · rw [hbb, hadds.record, List.nodup_append]
        refine ⟨h.filters.nodup bearer hlive, hadds.nodup, ?_⟩
        rintro pf hpf _ hpf' rfl
        have hin := ((h.filters.mem_iff bearer hlive pf).mp hpf).1
        rw [hadds.free pf hpf'] at hin
        cases hin
      · rw [hadds.other b hbb]
        exact h.filters.nodup b hb
    · intro b hb pf
      rw [hadds.live] at hb
      rw [hadds.pfLive]
      have hmem := h.filters.mem_iff b hb pf
      by_cases hbb : b = bearer
      · subst hbb
        rw [hadds.record, List.mem_append, hmem]
        constructor
        · rintro (⟨hin, hp⟩ | hnew)
          · rw [hold pf hin]
            exact ⟨Or.inr hin, hp⟩
          · exact ⟨Or.inl hnew, hadds.added pf hnew⟩
        · rintro ⟨hnew | hin, hp⟩
          · exact Or.inr hnew
          · rw [hold pf hin] at hp
            exact Or.inl ⟨hin, hp⟩
      · rw [hadds.other b hbb, hmem]
        constructor
        · rintro ⟨hin, hp⟩
          rw [hold pf hin]
          exact ⟨Or.inr hin, hp⟩
        · rintro ⟨hnew | hin, hp⟩
          · rw [hadds.added pf hnew] at hp
            exact absurd hp.symm hbb
          · rw [hold pf hin] at hp
            exact ⟨hin, hp⟩
    · intro pf hpf
      rw [hadds.live]
      rcases (hadds.pfLive pf).mp hpf with hnew | hin
      · rw [hadds.added pf hnew]
        exact hlive
      · rw [hold pf hin]
        exact h.filters.live pf hin

/-! ## Bearers -/

/-- A bearer that `pgwBearerAdd` has added. -/
def bearerAdded (s : PgwContext) (bearer : PgwBearerId) (sess : PgwSessId) : PgwContext :=
  { s with
    bearers := (s.bearers.alloc bearer).modify bearer fun m => m.add (UInt32.ofNat bearer) sess
    sessMem := Function.update s.sessMem sess { s.sessMem sess with
      bearerList := (s.sessMem sess).bearerList ++ [bearer] } }

theorem pgwBearerAdd_eq_some : s.pgwBearerAdd bearer sess = some t ↔
    (IsPoolIndex bearer ∧ s.bearers.live bearer = false) ∧ s.bearerAdded bearer sess = t := by
  rw [pgwBearerAdd, Option.ite_none_right_eq_some, Option.some_inj]
  rfl

theorem Links.bearerAdded (h : s.Links) (hsess : s.sess.live sess = true)
    (hfree : s.bearers.live bearer = false) : (s.bearerAdded bearer sess).Links := by
  have hnot : ¬s.bearers.live bearer = true := by simp [hfree]
  have hlive : ∀ b, (s.bearerAdded bearer sess).bearers.live b = true ↔
      b = bearer ∨ s.bearers.live b = true := by
    intro b
    simp only [PgwContext.bearerAdded, Pool.live_modify, Pool.live_alloc]
    split <;> simp [*]
  constructor
  · apply h.bearers.addChild hsess hnot (fun _ => Iff.rfl) hlive
    · simp [PgwContext.bearerAdded, PgwBearerRecord.add]
    · intro b hb
      simp [PgwContext.bearerAdded, hb]
    · simp [PgwContext.bearerAdded]
    · intro σ hσ
      simp [PgwContext.bearerAdded, hσ]
  · apply h.filters.addParent hnot hlive
    · simp [PgwContext.bearerAdded, PgwBearerRecord.add]
    · intro b hb
      simp [PgwContext.bearerAdded, hb]

theorem pgwBearerRemove_eq (h : ∀ pf ∈ (s.bearers.mem bearer).pfList,
    (s.pfs.mem pf).bearer = bearer) : s.pgwBearerRemove bearer =
      { s.setSess (s.bearers.mem bearer).sess fun m =>
          { m with bearerList := m.bearerList.erase bearer } with
        bearers := (s.bearers.modify bearer fun m => { m with pfList := [] }).free bearer
        pfs := (s.bearers.mem bearer).pfList.foldl Pool.free s.pfs } := by
  rw [pgwBearerRemove]
  dsimp only
  rw [pgwPfRemoveAll_eq (s := s.setSess _ _) h]
  rfl

/-- Bearers are removed with their filters, and nothing else is changed. -/
structure Removes (s : PgwContext) (gone : PgwBearerId → Prop) (t : PgwContext) : Prop where
  toPgw : t.toPgw = s.toPgw
  sessList : t.sessList = s.sessList
  sess : ∀ sess, t.sessMem sess =
    { s.sessMem sess with bearerList := (t.sessMem sess).bearerList }
  other : ∀ sess, (∀ bearer, gone bearer → (s.bearers.mem bearer).sess ≠ sess) →
    t.sessMem sess = s.sessMem sess
  live : ∀ bearer, t.bearers.live bearer = true ↔ ¬gone bearer ∧ s.bearers.live bearer = true
  record : ∀ bearer, ¬gone bearer → t.bearers.mem bearer = s.bearers.mem bearer
  stale : ∀ bearer, t.bearers.mem bearer =
    { s.bearers.mem bearer with pfList := (t.bearers.mem bearer).pfList }
  filters : t.pfs.mem = s.pfs.mem

theorem Removes.owner {gone : PgwBearerId → Prop} (h : s.Removes gone t) (b : PgwBearerId) :
    (t.bearers.mem b).sess = (s.bearers.mem b).sess := by
  rw [h.stale b]

theorem removes_none (s : PgwContext) : s.Removes (fun _ => False) s := by
  constructor
  all_goals simp

theorem Removes.trans {gone gone' : PgwBearerId → Prop} (h : s.Removes gone t)
    (h' : t.Removes gone' u) : s.Removes (fun b => gone b ∨ gone' b) u := by
  constructor
  · exact h'.toPgw.trans h.toPgw
  · exact h'.sessList.trans h.sessList
  · intro σ
    rw [h'.sess σ, h.sess σ]
  · intro σ hσ
    rw [h'.other σ, h.other σ]
    · exact fun b hb => hσ b (Or.inl hb)
    · intro b hb
      rw [h.owner]
      exact hσ b (Or.inr hb)
  · intro b
    rw [h'.live, h.live]
    tauto
  · intro b hb
    rw [not_or] at hb
    exact (h'.record b hb.2).trans (h.record b hb.1)
  · intro b
    rw [h'.stale b, h.stale b]
  · exact h'.filters.trans h.filters

theorem Links.removes (h : s.Links) (hlive : s.bearers.live bearer = true) :
    s.Removes (fun b => b = bearer) (s.pgwBearerRemove bearer) := by
  rw [pgwBearerRemove_eq (h.bearer_of_mem hlive)]
  constructor
  · rfl
  · rfl
  · intro σ
    simp only [setSess, Function.update_apply]
    split
    · rename_i hσ
      rw [hσ]
    · rfl
  · intro σ hσ
    simp [setSess, (hσ bearer rfl).symm]
  · intro b
    simp only [Pool.live_free, Pool.live_modify]
    split <;> simp [*]
  · intro b hb
    simp [hb]
  · intro b
    simp only [Pool.mem_free, Pool.mem_modify]
    split
    · rename_i hb
      rw [hb]
    · rfl
  · simp

theorem Links.bearerRemove (h : s.Links) (hlive : s.bearers.live bearer = true) :
    (s.pgwBearerRemove bearer).Links := by
  have hremoves := h.removes hlive
  have heq := pgwBearerRemove_eq (h.bearer_of_mem hlive)
  have hpf : ∀ pf, (s.pgwBearerRemove bearer).pfs.live pf = true ↔
      s.pfs.live pf = true ∧ (s.pfs.mem pf).bearer ≠ bearer := by
    intro pf
    rw [heq]
    simp only [Pool.live_foldl_free, h.filters.mem_iff bearer hlive]
    by_cases hin : s.pfs.live pf = true
    · by_cases hb : (s.pfs.mem pf).bearer = bearer
      · simp [hin, hb]
      · simp [hin, hb]
    · simp [hin]
  constructor
  · apply h.bearers.removeChild (c := bearer)
    · simp [hremoves.toPgw]
    · exact hremoves.live
    · exact fun b _ => hremoves.owner b
    · rw [heq]
      simp [setSess]
    · intro σ hσ
      rw [heq]
      simp [setSess, hσ]
  · rw [LinkedFilters, hremoves.filters]
    apply h.filters.removeFamily (p := bearer) hremoves.live hpf
    intro b hb
    rw [hremoves.record b hb]

/-- Bearers are removed one after the other. -/
theorem foldl_bearerRemove (l : List PgwBearerId) (hl : l.Nodup) (h : s.Links)
    (hlive : ∀ b ∈ l, s.bearers.live b = true) :
    (l.foldl pgwBearerRemove s).Links ∧ s.Removes (· ∈ l) (l.foldl pgwBearerRemove s) := by
  induction l generalizing s with
  | nil =>
    refine ⟨h, ?_⟩
    simpa using removes_none s
  | cons bearer l ih =>
    have hnodup := List.nodup_cons.mp hl
    have hbearer := hlive bearer List.mem_cons_self
    have hrest : ∀ b ∈ l, (s.pgwBearerRemove bearer).bearers.live b = true := by
      intro b hb
      rw [(h.removes hbearer).live]
      refine ⟨?_, hlive b (List.mem_cons_of_mem _ hb)⟩
      rintro rfl
      exact hnodup.1 hb
    obtain ⟨hlinks, hremoves⟩ := ih hnodup.2 (h.bearerRemove hbearer) hrest
    refine ⟨hlinks, ?_⟩
    simpa using (h.removes hbearer).trans hremoves

/-! ## Sessions -/

/-- A session that is no longer listed, and has given back its addresses. -/
def unlisted (s : PgwContext) (sess : PgwSessId) : PgwContext :=
  { s with
    toPgw := (s.toPgw.held sess).foldl Pgw.pgwUeIpFree s.toPgw
    sessList := s.sessList.erase sess }

/-- What is left of a session that was removed. -/
structure RemovesSess (s : PgwContext) (sess : PgwSessId) (t : PgwContext) : Prop where
  toPgw : t.toPgw = s.toPgw.pgwSessRemove sess
  live : ∀ σ, t.sess.live σ = true ↔ σ ≠ sess ∧ s.sess.live σ = true
  other : ∀ σ, σ ≠ sess → t.sessMem σ = s.sessMem σ
  bearers : ∀ b, t.bearers.live b = true ↔
    s.bearers.live b = true ∧ (s.bearers.mem b).sess ≠ sess
  record : ∀ b, t.bearers.live b = true → t.bearers.mem b = s.bearers.mem b
  stale : ∀ b, t.bearers.mem b =
    { s.bearers.mem b with pfList := (t.bearers.mem b).pfList }
  filters : t.pfs.mem = s.pfs.mem
  sessList : t.sessList = s.sessList.erase sess

theorem Tree.sessRemove (h : s.Tree) (hsess : s.sess.live sess = true) :
    (s.pgwSessRemove sess).Tree ∧ s.RemovesSess sess (s.pgwSessRemove sess) := by
  have hmem := h.bearers.mem_iff sess hsess
  have hsame : (s.unlisted sess).sess = s.sess := (Pgw.foldl_pgwUeIpFree_frame _ _).1
  have hshape : s.SameShape (s.unlisted sess) :=
    ⟨congrArg Pool.live hsame, fun _ => rfl, rfl, fun _ => ⟨rfl, rfl⟩, rfl, fun _ => rfl⟩
  have hlinks : (s.unlisted sess).Links := hshape.links h.toLinks
  obtain ⟨hrest, hremoves⟩ := foldl_bearerRemove (s := s.unlisted sess) (s.sessMem sess).bearerList
    (h.bearers.nodup sess hsess) hlinks fun b hb => ((hmem b).mp hb).1
  change ((s.unlisted sess).pgwBearerRemoveAll sess).Links at hrest
  change (s.unlisted sess).Removes _ ((s.unlisted sess).pgwBearerRemoveAll sess) at hremoves
  have heq : s.pgwSessRemove sess = { (s.unlisted sess).pgwBearerRemoveAll sess with
      toPgw := s.toPgw.pgwSessRemove sess } := by
    have hpgw : { (s.unlisted sess).toPgw with sess := (s.unlisted sess).sess.free sess } =
        s.toPgw.pgwSessRemove sess := rfl
    rw [← hpgw, ← hremoves.toPgw]
    rfl
  have hlive : ∀ σ, (s.pgwSessRemove sess).sess.live σ = true ↔
      σ ≠ sess ∧ s.sess.live σ = true := by
    intro σ
    rw [heq, ← hsame]
    simp only [Pgw.pgwSessRemove, Pool.live_free]
    split <;> simp [*, unlisted]
  -- the bearers that are left belong to other sessions
  have hbearers : ∀ b, (s.pgwSessRemove sess).bearers.live b = true ↔
      s.bearers.live b = true ∧ (s.bearers.mem b).sess ≠ sess := by
    intro b
    rw [heq]
    change ((s.unlisted sess).pgwBearerRemoveAll sess).bearers.live b = true ↔ _
    rw [hremoves.live, hmem]
    change ¬(s.bearers.live b = true ∧ _) ∧ s.bearers.live b = true ↔ _
    tauto
  have hother : ∀ σ, σ ≠ sess → (s.pgwSessRemove sess).sessMem σ = s.sessMem σ := by
    intro σ hσ
    rw [heq]
    apply hremoves.other
    intro b hb
    change (s.bearers.mem b).sess ≠ σ
    rw [((hmem b).mp hb).2]
    exact hσ.symm
  have hrecord : ∀ b, (s.pgwSessRemove sess).bearers.live b = true →
      (s.pgwSessRemove sess).bearers.mem b = s.bearers.mem b := by
    intro b hb
    rw [heq]
    apply hremoves.record
    rw [hmem]
    exact fun hin => ((hbearers b).mp hb).2 hin.2
  have hlist : (s.pgwSessRemove sess).sessList = s.sessList.erase sess := by
    rw [heq]
    exact hremoves.sessList
  refine ⟨⟨⟨?_, ?_⟩, ?_, ?_⟩, ?_, hlive, hother, hbearers, hrecord, ?_, ?_, hlist⟩
  · constructor
    · intro σ hσ
      obtain ⟨hne, hσ⟩ := (hlive σ).mp hσ
      rw [hother σ hne]
      exact h.bearers.nodup σ hσ
    · intro σ hσ b
      obtain ⟨hne, hσ⟩ := (hlive σ).mp hσ
      rw [hother σ hne, h.bearers.mem_iff σ hσ, hbearers]
      constructor
      · rintro ⟨hb, hown⟩
        have hin := (hbearers b).mpr ⟨hb, hown ▸ hne⟩
        rw [hrecord b hin]
        exact ⟨⟨hb, hown ▸ hne⟩, hown⟩
      · rintro ⟨hb, hown⟩
        rw [hrecord b ((hbearers b).mpr hb)] at hown
        exact ⟨hb.1, hown⟩
    · intro b hb
      rw [hlive, hrecord b hb]
      have hb := (hbearers b).mp hb
      exact ⟨hb.2, h.bearers.live b hb.1⟩
  · rw [heq]
    exact hrest.filters
  · rw [hlist]
    exact h.nodup.erase sess
  · intro σ
    rw [hlist, hlive, h.nodup.mem_erase_iff, h.mem_sessList]
  · rw [heq]
  · intro b
    rw [heq]
    exact hremoves.stale b
  · rw [heq]
    exact hremoves.filters

end PgwContext
end NextEpc

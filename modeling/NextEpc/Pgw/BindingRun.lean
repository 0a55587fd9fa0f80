import NextEpc.Pgw.Binding

/-!
# Messages with rules

A round of the loop gets through if and only if the table and the pools allow it. From this it
follows for all rules of a message when every one is answered, and when the bearers have the
filters of the last versions of their rules.
-/

namespace NextEpc
namespace PgwContext
variable {cfg : PgwConfig} {compile : CString → Option PgwRule} {maxNumOfFlow : Nat}
  {s t u : PgwContext} {sess : PgwSessId} {bearer b : PgwBearerId} {pfs : List PgwPfId}
  {name : CString} {rule : PccRule maxNumOfFlow} {out : List PgwOutput} {e : Binding}
  {rules : List (PccRule maxNumOfFlow × PgwBearerId × List PgwPfId)}

/-! ## Rounds that get through -/

theorem addFlow_of [Ogslib] (bearer : PgwBearerId) {flow : Flow} {pf : PgwPfId}
    (precedence : UInt32) (hcompiles : ∃ r, flow.description.bind compile = some r)
    (hfree : s.pfs.live pf = false) :
    ∃ t, s.addFlow compile bearer precedence flow pf = some t := by
  obtain ⟨r, hr⟩ := hcompiles
  obtain ⟨description, hdescription, hrule⟩ := Option.bind_eq_some_iff.mp hr
  simp [addFlow, pgwPfAdd, hdescription, hrule, hfree]

/-- Flows that can be compiled are added in free slots. -/
theorem addFlows_of [Ogslib] (bearer : PgwBearerId) {flows : List (Flow × PgwPfId)}
    (precedence : UInt32) (hcompiles : ∀ p ∈ flows, ∃ r, p.1.description.bind compile = some r)
    (hnodup : (flows.map Prod.snd).Nodup)
    (hfree : ∀ pf ∈ flows.map Prod.snd, s.pfs.live pf = false) :
    ∃ t, s.addFlows compile bearer precedence flows = some t := by
  induction flows generalizing s with
  | nil => exact ⟨s, rfl⟩
  | cons p flows ih =>
    rw [List.map_cons, List.nodup_cons] at hnodup
    rw [List.map_cons] at hfree
    obtain ⟨u, hu⟩ := addFlow_of bearer precedence (hcompiles p List.mem_cons_self)
      (hfree p.2 List.mem_cons_self)
    obtain ⟨t, ht⟩ := ih (fun p' hp' => hcompiles p' (List.mem_cons_of_mem _ hp')) hnodup.2 (s := u)
      (by
        intro pf hpf
        have hne : pf ≠ p.2 := by
          rintro rfl
          exact hnodup.1 hpf
        rw [← Bool.not_eq_true, (addsFilters_one hu).pfLive]
        simp [hne, hfree pf (List.mem_cons_of_mem _ hpf)])
    refine ⟨t, ?_⟩
    rw [addFlows, List.foldlM_cons]
    exact Option.bind_eq_some_iff.mpr ⟨u, hu, ht⟩

theorem forall_mem_zip {P : Flow → Prop} {flows : List Flow} (h : flows.length = pfs.length) :
    (∀ p ∈ flows.zip pfs, P p.1) ↔ ∀ f ∈ flows, P f := by
  have hfst := List.map_fst_zip (le_of_eq h)
  conv_rhs => rw [← hfst, List.forall_mem_map]

theorem AddsFilters.compiles [Ogslib] {flows : List Flow}
    (h : AddsFilters compile s bearer (flows.zip pfs) t) (hlength : flows.length = pfs.length) :
    ∀ f ∈ flows, ∃ r, f.description.bind compile = some r := by
  apply (forall_mem_zip (P := fun f => ∃ r, f.description.bind compile = some r) hlength).mp
  intro p hp
  obtain ⟨i, hi⟩ := List.mem_iff_getElem?.mp hp
  obtain ⟨r, hr, -⟩ := h.new i p hi
  exact ⟨r, hr⟩

/-- A bearer is created for flows that can be compiled. -/
theorem createBearer_isSome_iff [Ogslib] (s : PgwContext) (sess : PgwSessId) :
    (∃ t out, s.createBearer compile sess name rule bearer pfs = some (t, out)) ↔
      (rule.flow ≠ [] ∧ ∀ f ∈ rule.flow, ∃ r, f.description.bind compile = some r) ∧
        rule.flow.length = pfs.length ∧ pfs.Nodup ∧
          (IsPoolIndex bearer ∧ s.bearers.live bearer = false) ∧
            ∀ pf ∈ pfs, s.pfs.live pf = false := by
  constructor
  · rintro ⟨t, out, h⟩
    have hcreates := createsBearer_of_createBearer h
    have hadds := hcreates.filters
    have hnodup := hadds.nodup
    have hfree := hadds.free
    rw [map_snd_zip_of_length hcreates.flows.2] at hnodup hfree
    exact ⟨⟨hcreates.flows.1, hadds.compiles hcreates.flows.2⟩, hcreates.flows.2, hnodup,
      hcreates.slot, hfree⟩
  · rintro ⟨⟨hsome, hcompiles⟩, hlength, hnodup, hslot, hfree⟩
    rw [← map_snd_zip_of_length hlength] at hnodup hfree
    obtain ⟨t, ht⟩ := addFlows_of (s := (s.bearerAdded bearer sess).setBearer bearer
      fun m => { m with name := some name, qos := rule.qos }) bearer rule.precedence
        ((forall_mem_zip hlength).mpr hcompiles) hnodup hfree
    have hdefault : ∃ b, t.pgwDefaultBearerInSess sess = some b := by
      rw [pgwDefaultBearerInSess, (addsFilters_of_addFlows ht).sessMem]
      apply Option.isSome_iff_exists.mp
      rw [List.isSome_head?]
      simp [setBearer, bearerAdded]
    obtain ⟨b, hb⟩ := hdefault
    have hadded : s.pgwBearerAdd bearer sess = some (s.bearerAdded bearer sess) :=
      pgwBearerAdd_eq_some.mpr ⟨hslot, rfl⟩
    have hcreate : ∃ r, s.createBearer compile sess name rule bearer pfs = some r := by
      rw [createBearer, if_neg (not_or.mpr ⟨hsome, not_not.mpr hlength⟩)]
      exact ⟨_, Option.bind_eq_some_iff.mpr ⟨_, hadded, Option.bind_eq_some_iff.mpr ⟨t, ht,
        Option.bind_eq_some_iff.mpr ⟨b, hb, rfl⟩⟩⟩⟩
    obtain ⟨⟨t, out⟩, h⟩ := hcreate
    exact ⟨t, out, h⟩

/-- A bearer with the name of a rule gets the flows of it. -/
theorem updateBearer_isSome_iff [Ogslib] (hs : s.Links) (hlive : s.bearers.live b = true) :
    (∃ t out, s.updateBearer compile name rule b pfs = some (t, out)) ↔
      ((s.bearers.mem b).name = some name ∧
        ∀ f ∈ rule.flow, ∃ r, f.description.bind compile = some r) ∧
          rule.flow.length = pfs.length ∧ pfs.Nodup ∧
            ∀ pf ∈ pfs, s.pfs.live pf = false ∨ pf ∈ (s.bearers.mem b).pfList := by
  have heq := rebound_eq hs hlive rule
  have hlivePf (hsome : rule.flow ≠ []) (pf : PgwPfId) : (s.rebound rule b).pfs.live pf = false ↔
      s.pfs.live pf = false ∨ pf ∈ (s.bearers.mem b).pfList := by
    rw [heq, if_neg hsome, ← Bool.not_eq_true, Pool.live_foldl_free]
    grind
  constructor
  · rintro ⟨t, out, h⟩
    have hupdates := updatesBearer_of_updateBearer h
    have hadds := hupdates.filters
    have hnodup := hadds.nodup
    have hfree := hadds.free
    rw [map_snd_zip_of_length hupdates.flows] at hnodup hfree
    refine ⟨⟨hupdates.named, hadds.compiles hupdates.flows⟩, hupdates.flows, hnodup, ?_⟩
    intro pf hpf
    apply (hlivePf _ pf).mp (hfree pf hpf)
    intro hnone
    have hpfs : pfs = [] := by simpa [hnone] using hupdates.flows.symm
    rw [hpfs] at hpf
    cases hpf
  · rintro ⟨⟨hname, hcompiles⟩, hlength, hnodup, hfree⟩
    by_cases hnone : rule.flow = []
    · have hpfs : pfs = [] := by simpa [hnone] using hlength.symm
      by_cases hqos : qosChanged rule.qos (s.bearers.mem b).qos = true
      · simp [updateBearer, hname, hnone, hpfs, hqos, addFlows]
      · simp [updateBearer, hname, hnone, hpfs, hqos]
    · have hfree : ∀ pf ∈ pfs, (s.rebound rule b).pfs.live pf = false :=
        fun pf hpf => (hlivePf hnone pf).mpr (hfree pf hpf)
      rw [← map_snd_zip_of_length hlength] at hnodup hfree
      obtain ⟨t, ht⟩ := addFlows_of b rule.precedence
        ((forall_mem_zip hlength).mpr hcompiles) hnodup hfree
      have hsome : ∀ q : Bool, ((!(!rule.flow.isEmpty) && !q) = true) = False := by simp [hnone]
      have hupdate : ∃ r, s.updateBearer compile name rule b pfs = some r := by
        rw [updateBearer, if_neg (not_or.mpr ⟨not_not.mpr hname, not_not.mpr hlength⟩)]
        simp only [hsome, if_false]
        exact ⟨_, Option.bind_eq_some_iff.mpr ⟨t, by simpa [rebound, hnone] using ht, rfl⟩⟩
      obtain ⟨⟨t, out⟩, h⟩ := hupdate
      exact ⟨t, out, h⟩

/-- A template is built if its filters fit into the array and into the buffer. -/
theorem tftBuilds_iff : t.tftBuilds b = true ↔
    (t.bearers.mem b).pfList.length ≤ maxNumOfPacketFilter ∧
      1 + (((t.bearers.mem b).pfList.map fun pf => 3 + (t.pfs.mem pf).rule.tftLen).take
        ((t.bearers.mem b).pfList.length % 16)).sum ≤ maxTrafficFlowTemplate := by
  have hbuilds : t.tftBuilds b = true ↔ ∃ octets,
      (t.encodeTft b >>= ogsGtpBuildTft maxTrafficFlowTemplate) = .ok octets := by
    rw [tftBuilds]
    cases t.encodeTft b >>= ogsGtpBuildTft maxTrafficFlowTemplate with
    | ok octets => simp
    | error e => simp
  rw [hbuilds, encodeTft, length_encodeTrafficFlowTemplate]
  split
  next hcount =>
    simp only [Fallible.ok_bind]
    rw [and_iff_right hcount, ← length_octets_encodeTft, length_encodeTrafficFlowTemplate]
    constructor
    · rintro ⟨octets, h⟩
      exact ((ogsGtpBuildTft_eq_ok le_rfl).mp h).1
    · exact fun h => ⟨_, (ogsGtpBuildTft_eq_ok le_rfl).mpr ⟨h, rfl⟩⟩
  next hcount =>
    simp only [Fallible.error_bind, reduceCtorEq, exists_false, false_iff]
    exact fun h => hcount h.1

/-- The template of a rule is built if its flows fit. -/
theorem AddsFilters.tftBuilds_iff [Ogslib] (h : AddsFilters compile s bearer (rule.flow.zip pfs) t)
    (hnil : (s.bearers.mem bearer).pfList = []) (hlength : rule.flow.length = pfs.length) :
    t.tftBuilds bearer = true ↔ rule.FlowsFit compile := by
  have hpfs : (t.bearers.mem bearer).pfList.length = rule.flow.length := by
    rw [h.record, hnil, List.nil_append, map_snd_zip_of_length hlength, hlength]
  have hmap := h.map_pfList (g := fun m => 3 + m.rule.tftLen) (f := Flow.tftLen compile) hnil
    fun flow rule identifier hrule => by rw [Flow.tftLen, hrule]; rfl
  rw [map_fst_zip hlength] at hmap
  rw [PgwContext.tftBuilds_iff, hpfs, hmap]
  exact ⟨fun hfit => ⟨h.compiles hlength, hfit.1, hfit.2⟩, fun hfit => ⟨hfit.count, hfit.room⟩⟩

theorem flowsFit_of_nil (h : rule.flow = []) : rule.FlowsFit compile := by
  constructor
  · simp [h]
  · simp [h]
  · simp [h, maxTrafficFlowTemplate]

/-- The bearer and the filters of a rule that is installed in a round. -/
inductive Installs [Ogslib] (compile : CString → Option PgwRule) (s : PgwContext) (sess : PgwSessId)
    (name : CString) (rule : PccRule maxNumOfFlow) (bearer : PgwBearerId) (pfs : List PgwPfId)
    (t : PgwContext) (out : List PgwOutput) : Prop
  | created : (s.bindings sess).find? (Binding.isFor rule) = none →
    CreatesBearer compile s sess name rule bearer pfs t out →
    Installs compile s sess name rule bearer pfs t out
  | updated (e : Binding) : (s.bindings sess).find? (Binding.isFor rule) = some e →
    UpdatesBearer compile s name rule e.bearer pfs t out →
    Installs compile s sess name rule bearer pfs t out

theorem bindRule_install [Ogslib] (htype : rule.type = pccRuleTypeInstall)
    (hname : rule.name = some name) :
    s.bindRule compile sess rule bearer pfs =
      match (s.bindings sess).find? (Binding.isFor rule) with
      | none => s.createBearer compile sess name rule bearer pfs
      | some e => s.updateBearer compile name rule e.bearer pfs := by
  rw [bindRule, hname]
  dsimp only
  rw [if_pos htype, findByQciArp_eq]
  cases (s.bindings sess).find? (Binding.isFor rule) with
  | none => rfl
  | some e => rfl

theorem bindRound_eq_some [Ogslib] : s.bindRound compile sess rule bearer pfs = some (t, out) ↔
    s.bindRule compile sess rule bearer pfs = some (t, out) ∧ out.all t.builds = true := by
  rw [bindRound]
  constructor
  · intro h
    obtain ⟨⟨t', out'⟩, hbind, h⟩ := Option.bind_eq_some_iff.mp h
    obtain ⟨hbuilds, h⟩ := Option.ite_none_right_eq_some.mp h
    cases h
    exact ⟨hbind, hbuilds⟩
  · rintro ⟨hbind, hbuilds⟩
    exact Option.bind_eq_some_iff.mpr ⟨(t, out), hbind, if_pos hbuilds⟩

/-- What is sent is built if and only if the flows fit. -/
theorem Installs.builds_iff [Ogslib] (h : Installs compile s sess name rule bearer pfs t out)
    (hs : s.Tree) (hsess : s.sess.live sess = true) :
    out.all t.builds = true ↔ rule.FlowsFit compile := by
  cases h with
  | created hfind hcreates =>
    obtain ⟨b, -, rfl⟩ := hcreates.out
    rw [List.all_cons, List.all_nil, Bool.and_true]
    apply hcreates.filters.tftBuilds_iff _ hcreates.flows.2
    simp [setBearer, bearerAdded, PgwBearerRecord.add]
  | updated e hfind hupdates =>
    have hmem := mem_of_findByQciArp (by rw [findByQciArp_eq, hfind]; rfl :
      s.pgwBearerFindByQciArp sess rule.qos.qci rule.qos.arp = some e.bearer)
    have hlive := hs.live_of_mem hsess hmem
    by_cases hnone : rule.flow = []
    · apply iff_of_true _ (flowsFit_of_nil hnone)
      rw [hupdates.out]
      split
      · rfl
      · simp [builds]
    · rw [hupdates.out, if_neg fun hand => hnone hand.1, List.all_cons, List.all_nil,
        Bool.and_true]
      change (Option.isNone _ || _) = true ↔ _
      rw [if_neg hnone, Option.isNone_some, Bool.false_or]
      apply hupdates.filters.tftBuilds_iff _ hupdates.flows
      simp [rebound_eq hs.toLinks hlive rule, hnone]

theorem installs_of_bindRule [Ogslib] (htype : rule.type = pccRuleTypeInstall)
    (hname : rule.name = some name) (h : s.bindRule compile sess rule bearer pfs = some (t, out)) :
    Installs compile s sess name rule bearer pfs t out := by
  rw [bindRule_install htype hname] at h
  split at h
  next hfind => exact .created hfind (createsBearer_of_createBearer h)
  next e hfind => exact .updated e hfind (updatesBearer_of_updateBearer h)

theorem live_of_find (hs : s.Tree) (hsess : s.sess.live sess = true)
    (hfind : (s.bindings sess).find? (Binding.isFor rule) = some e) :
    s.bearers.live e.bearer = true ∧ e.name = (s.bearers.mem e.bearer).name := by
  obtain ⟨i, hi, rfl⟩ := mem_bindings.mp (List.mem_of_find?_eq_some hfind)
  exact ⟨hs.live_of_mem hsess (List.getElem_mem hi), rfl⟩

/-- A rule is installed if the table and the pools allow it. -/
theorem bindRound_install_iff [Ogslib] (hs : s.Tree) (hsess : s.sess.live sess = true)
    (htype : rule.type = pccRuleTypeInstall) (hname : rule.name = some name) :
    (∃ t out, s.bindRound compile sess rule bearer pfs = some (t, out)) ↔
      rule.Installable compile (s.bindings sess) ∧ s.SlotsFor sess rule bearer pfs := by
  have hround : (∃ t out, s.bindRound compile sess rule bearer pfs = some (t, out)) ↔
      (∃ t out, s.bindRule compile sess rule bearer pfs = some (t, out)) ∧
        rule.FlowsFit compile := by
    simp only [bindRound_eq_some]
    constructor
    · rintro ⟨t, out, hbind, hbuilds⟩
      have hfit := (installs_of_bindRule htype hname hbind).builds_iff hs hsess
      exact ⟨⟨t, out, hbind⟩, hfit.mp hbuilds⟩
    · rintro ⟨⟨t, out, hbind⟩, hfits⟩
      have hfit := (installs_of_bindRule htype hname hbind).builds_iff hs hsess
      exact ⟨t, out, hbind, hfit.mpr hfits⟩
  rw [hround, bindRule_install htype hname]
  have hqciArp := findByQciArp_eq s sess rule
  cases hfind : (s.bindings sess).find? (Binding.isFor rule) with
  | none =>
    rw [hfind, Option.map_none] at hqciArp
    rw [createBearer_isSome_iff]
    constructor
    · rintro ⟨⟨⟨hsome, -⟩, hlength, hnodup, hslot, hfree⟩, hfit⟩
      refine ⟨⟨?_, fun _ => hsome, hfit⟩, hlength, hnodup, fun _ => hslot,
        fun pf hpf => Or.inl (hfree pf hpf)⟩
      rw [hfind]
      exact nofun
    · rintro ⟨⟨-, hsome, hfit⟩, hlength, hnodup, hslot, hfree⟩
      refine ⟨⟨⟨hsome hfind, hfit.compiles⟩, hlength, hnodup, hslot hqciArp, ?_⟩, hfit⟩
      intro pf hpf
      rcases hfree pf hpf with hfree | ⟨b, hb, -⟩
      · exact hfree
      · rw [hqciArp] at hb
        cases hb
  | some e =>
    rw [hfind, Option.map_some] at hqciArp
    obtain ⟨hlive, hentry⟩ := live_of_find hs hsess hfind
    rw [updateBearer_isSome_iff hs.toLinks hlive, ← hentry, ← hname]
    constructor
    · rintro ⟨⟨⟨hnamed, -⟩, hlength, hnodup, hfree⟩, hfit⟩
      refine ⟨⟨?_, ?_, hfit⟩, hlength, hnodup, ?_, ?_⟩
      · intro e' he'
        rw [hfind, Option.some_inj] at he'
        rw [← he', hnamed]
      · rw [hfind]
        exact nofun
      · rw [hqciArp]
        exact nofun
      · intro pf hpf
        exact (hfree pf hpf).imp_right fun hin => ⟨e.bearer, hqciArp, hin⟩
    · rintro ⟨⟨hnamed, -, hfit⟩, hlength, hnodup, -, hfree⟩
      refine ⟨⟨⟨hnamed e hfind, hfit.compiles⟩, hlength, hnodup, ?_⟩, hfit⟩
      intro pf hpf
      rcases hfree pf hpf with hfree | ⟨b, hb, hin⟩
      · exact Or.inl hfree
      · rw [hqciArp, Option.some_inj] at hb
        exact Or.inr (hb ▸ hin)

/-- What a round with a rule that is installed does to the table, and what is sent. -/
theorem Installs.spec [Ogslib] (h : Installs compile s sess name rule bearer pfs t out)
    (hs : s.Tree) (hsess : s.sess.live sess = true) (htype : rule.type = pccRuleTypeInstall)
    (hname : rule.name = some name) : (t.Tree ∧ t.sess.live sess = true) ∧
      s.Answers sess rule out ∧ t.bindings sess = Binding.install compile (s.sessMem sess).qci
        (s.sessMem sess).arp rule bearer (s.bindings sess) ∧
          (t.sessMem sess).qci = (s.sessMem sess).qci ∧
            (t.sessMem sess).arp = (s.sessMem sess).arp := by
  have hqciArp := findByQciArp_eq s sess rule
  cases h with
  | created hfind hcreates =>
    rw [hfind, Option.map_none] at hqciArp
    obtain ⟨b, -, hout⟩ := hcreates.out
    refine ⟨⟨hs.createsBearer hsess hcreates, ?_⟩, ?_, hcreates.bindings hs hsess hname hfind, ?_⟩
    · rw [hcreates.filters.toPgw]
      exact hsess
    · rw [hout]
      exact .created _ _ _ _ _ _ htype hqciArp
    · rw [hcreates.filters.sessMem]
      simp [setBearer, bearerAdded]
  | updated e hfind hupdates =>
    rw [hfind, Option.map_some] at hqciArp
    obtain ⟨hlive, -⟩ := live_of_find hs hsess hfind
    have heq := rebound_eq hs.toLinks hlive rule
    refine ⟨⟨hs.updatesBearer hlive hupdates, ?_⟩, ?_, hupdates.bindings hs hsess hfind bearer, ?_⟩
    · rw [hupdates.filters.toPgw, heq]
      exact hsess
    · rw [hupdates.out]
      split
      next hnothing => exact .ignored e.bearer htype hqciArp hnothing.1 hnothing.2
      next hsomething =>
        apply Answers.updated e.bearer _ _ _ htype hqciArp
        rw [or_iff_not_imp_left, not_not]
        intro hnone
        exact Bool.eq_true_of_not_eq_false fun hqos => hsomething ⟨hnone, hqos⟩
    · rw [hupdates.filters.sessMem, heq]
      exact ⟨rfl, rfl⟩

/-- A rule that is removed needs a bearer with its name. -/
theorem bindRound_remove [Ogslib] (htype : rule.type = pccRuleTypeRemove)
    (hname : rule.name = some name) :
    s.bindRound compile sess rule bearer pfs = (s.pgwBearerFindByName sess name).map fun b =>
      (s, [.deleteBearerRequest b (s.bearers.mem b).ebi]) := by
  have hnot : ¬rule.type = pccRuleTypeInstall := by
    rw [htype]
    decide
  rw [bindRound, bindRule, hname]
  dsimp only
  rw [if_neg hnot, if_pos htype]
  cases s.pgwBearerFindByName sess name with
  | none => rfl
  | some b => rfl

/-! ## All rounds -/

variable {rounds : List (PgwContext × List PgwOutput)}

theorem rounds_install_iff [Ogslib] (htype : rule.type = pccRuleTypeInstall) :
    s.bearerBindingRounds compile sess ((rule, bearer, pfs) :: rules) = some (u, rounds) ↔
      ∃ t out rest, s.bindRound compile sess rule bearer pfs = some (t, out) ∧
        t.bearerBindingRounds compile sess rules = some (u, rest) ∧ rounds = (s, out) :: rest := by
  have hnot : ¬(rule.name.isSome = true ∧ rule.type = pccRuleTypeRemove) := by
    rw [htype]
    exact fun h => absurd h.2 (by decide)
  rw [bearerBindingRounds]
  constructor
  · intro h
    obtain ⟨⟨t, out⟩, hround, h⟩ := Option.bind_eq_some_iff.mp h
    dsimp only at h
    rw [if_neg hnot] at h
    obtain ⟨⟨u', rest⟩, hrest, h⟩ := Option.bind_eq_some_iff.mp h
    cases h
    exact ⟨t, out, rest, hround, hrest, rfl⟩
  · rintro ⟨t, out, rest, hround, hrest, rfl⟩
    refine Option.bind_eq_some_iff.mpr ⟨(t, out), hround, ?_⟩
    dsimp only
    rw [if_neg hnot]
    exact Option.bind_eq_some_iff.mpr ⟨(u, rest), hrest, rfl⟩

theorem rounds_remove_iff [Ogslib] (htype : rule.type = pccRuleTypeRemove)
    (hname : rule.name = some name) :
    s.bearerBindingRounds compile sess ((rule, bearer, pfs) :: rules) = some (u, rounds) ↔
      ∃ b, s.pgwBearerFindByName sess name = some b ∧ u = s ∧
        rounds = [(s, [.deleteBearerRequest b (s.bearers.mem b).ebi])] := by
  have hremove : rule.name.isSome = true ∧ rule.type = pccRuleTypeRemove :=
    ⟨by rw [hname]; rfl, htype⟩
  rw [bearerBindingRounds, bindRound_remove htype hname]
  constructor
  · intro h
    obtain ⟨⟨t, out⟩, hround, h⟩ := Option.bind_eq_some_iff.mp h
    dsimp only at h
    obtain ⟨b, hb, hout⟩ := Option.map_eq_some_iff.mp hround
    rw [if_pos hremove] at h
    cases hout
    cases h
    exact ⟨b, hb, rfl, rfl⟩
  · rintro ⟨b, hb, rfl, rfl⟩
    refine Option.bind_eq_some_iff.mpr ⟨_, by rw [hb]; rfl, ?_⟩
    exact if_pos hremove

/-- The rules are named, and they are for installing or for removing. -/
def Named (rules : List (PccRule maxNumOfFlow × PgwBearerId × List PgwPfId)) : Prop :=
  ∀ r ∈ rules, (∃ name, r.1.name = some name) ∧
    (r.1.type = pccRuleTypeInstall ∨ r.1.type = pccRuleTypeRemove)

/-- All rounds get through if and only if the table and the pools allow each of them. -/
theorem rounds_iff [Ogslib] (hs : s.Tree) (hsess : s.sess.live sess = true) (hnamed : Named rules) :
    (∃ t rounds, s.bearerBindingRounds compile sess rules = some (t, rounds) ∧
      rounds.length = rules.length) ↔
        Bindable compile (s.sessMem sess).qci (s.sessMem sess).arp rules (s.bindings sess) ∧
          SlotsGiven compile sess rules s := by
  induction rules generalizing s with
  | nil => exact iff_of_true ⟨s, [], rfl, rfl⟩ ⟨trivial, trivial⟩
  | cons r rules ih =>
    obtain ⟨rule, bearer, pfs⟩ := r
    obtain ⟨⟨name, hname⟩, htype⟩ := hnamed _ List.mem_cons_self
    have hrest : Named rules := fun r hr => hnamed r (List.mem_cons_of_mem _ hr)
    have hname : rule.name = some name := hname
    rw [Bindable, SlotsGiven]
    rcases htype with htype | htype
    · have hround : (∃ t out, s.bindRound compile sess rule bearer pfs = some (t, out)) ↔ _ :=
        bindRound_install_iff hs hsess htype hname
      rw [if_pos htype]
      constructor
      · rintro ⟨u, rounds, h, hlength⟩
        obtain ⟨t, out, rest, hfirst, hothers, rfl⟩ := (rounds_install_iff htype).mp h
        obtain ⟨hinstallable, hslots⟩ := hround.mp ⟨t, out, hfirst⟩
        have hinstalls := installs_of_bindRule htype hname (bindRound_eq_some.mp hfirst).1
        obtain ⟨⟨ht, htsess⟩, -, htable, hqci, harp⟩ := hinstalls.spec hs hsess htype hname
        have hrounds := (ih ht htsess hrest).mp ⟨u, rest, hothers, by simpa using hlength⟩
        rw [htable, hqci, harp] at hrounds
        refine ⟨⟨hinstallable, hrounds.1⟩, fun _ => hslots, ?_⟩
        intro t' out' h'
        rw [hfirst] at h'
        cases h'
        exact hrounds.2
      · rintro ⟨⟨hinstallable, hbindable⟩, hslots, hgiven⟩
        obtain ⟨t, out, hfirst⟩ := hround.mpr ⟨hinstallable, hslots htype⟩
        have hinstalls := installs_of_bindRule htype hname (bindRound_eq_some.mp hfirst).1
        obtain ⟨⟨ht, htsess⟩, -, htable, hqci, harp⟩ := hinstalls.spec hs hsess htype hname
        have hrounds := ih ht htsess hrest
        rw [htable, hqci, harp] at hrounds
        obtain ⟨u, rest, hothers, hlength⟩ := hrounds.mpr ⟨hbindable, hgiven t out hfirst⟩
        refine ⟨u, _, (rounds_install_iff htype).mpr ⟨t, out, rest, hfirst, hothers, rfl⟩, ?_⟩
        simpa using hlength
    · have hnot : ¬rule.type = pccRuleTypeInstall := by
        rw [show rule.type = pccRuleTypeRemove from htype]
        decide
      rw [if_neg hnot]
      constructor
      · rintro ⟨u, rounds, h, hlength⟩
        obtain ⟨b, hb, rfl, rfl⟩ := (rounds_remove_iff htype hname).mp h
        have hnil : rules = [] := by simpa using hlength.symm
        refine ⟨⟨?_, hnil⟩, fun hinstall => absurd hinstall hnot, ?_⟩
        · rw [hname]
          exact (findByName_isSome_iff u sess name).mp ⟨b, hb⟩
        · intro t out _
          rw [hnil]
          trivial
      · rintro ⟨⟨hentry, rfl⟩, -⟩
        rw [hname] at hentry
        obtain ⟨b, hb⟩ := (findByName_isSome_iff s sess name).mpr hentry
        exact ⟨s, _, (rounds_remove_iff htype hname).mpr ⟨b, hb, rfl, rfl⟩, rfl⟩

/-- Rounds that get through answer their rules, and the bearers of the session are what the table
says. -/
theorem rounds_spec [Ogslib] (hs : s.Tree) (hsess : s.sess.live sess = true) (hnamed : Named rules)
    (h : s.bearerBindingRounds compile sess rules = some (t, rounds))
    (hlength : rounds.length = rules.length) :
    List.Forall₂ (fun r round => Answers round.1 sess r.1 round.2) rules rounds ∧
      t.bindings sess = Binding.installs compile (s.sessMem sess).qci (s.sessMem sess).arp rules
        (s.bindings sess) := by
  induction rules generalizing s rounds with
  | nil =>
    cases h
    exact ⟨.nil, rfl⟩
  | cons r rules ih =>
    obtain ⟨rule, bearer, pfs⟩ := r
    obtain ⟨⟨name, hname⟩, htype⟩ := hnamed _ List.mem_cons_self
    have hrest : Named rules := fun r hr => hnamed r (List.mem_cons_of_mem _ hr)
    have hname : rule.name = some name := hname
    rw [Binding.installs]
    rcases htype with htype | htype
    · obtain ⟨u, out, rest, hfirst, hothers, rfl⟩ := (rounds_install_iff htype).mp h
      have hinstalls := installs_of_bindRule htype hname (bindRound_eq_some.mp hfirst).1
      obtain ⟨⟨hu, husess⟩, hanswers, htable, hqci, harp⟩ := hinstalls.spec hs hsess htype hname
      obtain ⟨hall, htables⟩ := ih hu husess hrest hothers (by simpa using hlength)
      refine ⟨.cons hanswers hall, ?_⟩
      rw [htables, htable, hqci, harp, if_pos htype]
    · obtain ⟨b, hb, rfl, rfl⟩ := (rounds_remove_iff htype hname).mp h
      have hnil : rules = [] := by simpa using hlength.symm
      have hnot : ¬rule.type = pccRuleTypeInstall := by
        rw [show rule.type = pccRuleTypeRemove from htype]
        decide
      rw [hnil, if_neg hnot]
      exact ⟨.cons (.removed b name htype hname hb) .nil, rfl⟩

/-! ## The last version of a rule -/

theorem lastInstalled_eq_none_iff {name : Option CString} :
    lastInstalled compile name rules = none ↔
      ∀ r ∈ rules, ¬(r.1.type = pccRuleTypeInstall ∧ r.1.name = name ∧ r.1.flow ≠ []) := by
  simp [lastInstalled]

/-- An entry is as before, or it has the name of the rule. -/
theorem mem_of_mem_install {qci : UInt8} {arp : Arp} {table : List Binding}
    (hinstallable : rule.Installable compile table)
    (he : e ∈ Binding.install compile qci arp rule bearer table) :
    e ∈ table ∨ e.name = rule.name ∧ rule.flow ≠ [] := by
  rw [Binding.install] at he
  split at he
  next e' hfind =>
    split at he
    · exact Or.inl he
    next hsome =>
      obtain ⟨e'', he'', rfl⟩ := List.mem_map.mp he
      split
      next heq =>
        rw [heq]
        exact Or.inr ⟨hinstallable.named e' hfind, hsome⟩
      · exact Or.inl he''
  next hfind =>
    rcases List.mem_append.mp he with he | he
    · exact Or.inl he
    · rw [List.mem_singleton.mp he]
      exact Or.inr ⟨rfl, hinstallable.flows hfind⟩

/-- Without a rule of its name an entry is as before. -/
theorem mem_of_mem_installs {qci : UInt8} {arp : Arp} {table : List Binding}
    (hbindable : Bindable compile qci arp rules table)
    (he : e ∈ Binding.installs compile qci arp rules table)
    (hnone : lastInstalled compile e.name rules = none) : e ∈ table := by
  rw [lastInstalled_eq_none_iff] at hnone
  induction rules generalizing table with
  | nil => exact he
  | cons r rules ih =>
    obtain ⟨rule, bearer, pfs⟩ := r
    rw [Bindable] at hbindable
    rw [Binding.installs] at he
    split at hbindable
    next htype =>
      rw [if_pos htype] at he
      have hmem := ih hbindable.2 he fun r hr => hnone r (List.mem_cons_of_mem _ hr)
      rcases mem_of_mem_install hbindable.1 hmem with hmem | ⟨hname, hsome⟩
      · exact hmem
      · exact absurd ⟨htype, hname.symm, hsome⟩ (hnone _ List.mem_cons_self)
    next htype =>
      rw [if_neg htype, hbindable.2] at he
      exact he

/-- The bearers have the filters of the last versions of their rules if the entries do. -/
theorem filters_iff (hbindable : Bindable compile (s.sessMem sess).qci (s.sessMem sess).arp rules
    (s.bindings sess)) (htable : t.bindings sess = Binding.installs compile (s.sessMem sess).qci
      (s.sessMem sess).arp rules (s.bindings sess)) :
    (∀ b ∈ (t.sessMem sess).bearerList, t.bearerFilters b =
      (lastInstalled compile (t.bearers.mem b).name rules).getD (s.bearerFilters b)) ↔
        Agreed compile rules (Binding.installs compile (s.sessMem sess).qci (s.sessMem sess).arp
          rules (s.bindings sess)) := by
  have hentries : (∀ b ∈ (t.sessMem sess).bearerList, t.bearerFilters b =
      (lastInstalled compile (t.bearers.mem b).name rules).getD (s.bearerFilters b)) ↔
        ∀ e ∈ t.bindings sess, e.filters =
          (lastInstalled compile e.name rules).getD (s.bearerFilters e.bearer) := by
    constructor
    · intro h e he
      obtain ⟨i, hi, rfl⟩ := mem_bindings.mp he
      exact h _ (List.getElem_mem hi)
    · intro h b hb
      obtain ⟨i, hi, rfl⟩ := List.mem_iff_getElem.mp hb
      exact h _ (mem_bindings.mpr ⟨i, hi, rfl⟩)
  rw [hentries, htable]
  apply forall₂_congr
  intro e he
  cases hlast : lastInstalled compile e.name rules with
  | none =>
    apply iff_of_true _ nofun
    obtain ⟨i, hi, rfl⟩ := mem_bindings.mp (mem_of_mem_installs hbindable he hlast)
    rfl
  | some filters =>
    rw [Option.getD_some]
    exact ⟨fun heq _ h => by rw [heq, Option.some_inj.mp h], fun h => h filters rfl⟩

/-- The rounds are those of `bearer_binding`: the state behind the last one, and what is sent in
all of them. -/
theorem bearerBinding_of_rounds [Ogslib]
    (h : s.bearerBindingRounds compile sess rules = some (t, rounds)) :
    s.bearerBinding compile sess rules = some (t, rounds.flatMap Prod.snd) := by
  induction rules generalizing s rounds with
  | nil =>
    cases h
    rfl
  | cons r rules ih =>
    obtain ⟨rule, bearer, pfs⟩ := r
    rw [bearerBindingRounds] at h
    rw [bearerBinding]
    obtain ⟨⟨u, out⟩, hround, h⟩ := Option.bind_eq_some_iff.mp h
    refine Option.bind_eq_some_iff.mpr ⟨(u, out), (bindRound_eq_some.mp hround).1, ?_⟩
    dsimp only at h ⊢
    split at h
    next hremove =>
      cases h
      rw [if_pos hremove, List.flatMap_singleton]
    next hremove =>
      obtain ⟨⟨u', rest⟩, hrest, h⟩ := Option.bind_eq_some_iff.mp h
      cases h
      rw [if_neg hremove, List.flatMap_cons]
      exact Option.bind_eq_some_iff.mpr ⟨_, ih hrest, rfl⟩

/-- The rules of a message are bound as they should be if and only if each can be installed in the
table that the ones before it leave, only the last one is removed, bearers with one name have the
same filters, and the pools are not exhausted. -/
theorem Tree.rules_bound_iff [Ogslib] (hs : s.Tree) (hsess : s.sess.live sess = true)
    (hnamed : Named rules) :
    s.Binds compile sess rules ↔
      Bindable compile (s.sessMem sess).qci (s.sessMem sess).arp rules (s.bindings sess) ∧
        Agreed compile rules (Binding.installs compile (s.sessMem sess).qci (s.sessMem sess).arp
          rules (s.bindings sess)) ∧ SlotsGiven compile sess rules s := by
  constructor
  · rintro ⟨t, rounds, h, -, hall, hfilters⟩
    have hlength := hall.length_eq.symm
    obtain ⟨hbindable, hgiven⟩ := (rounds_iff hs hsess hnamed).mp ⟨t, rounds, h, hlength⟩
    have htable := (rounds_spec hs hsess hnamed h hlength).2
    exact ⟨hbindable, (filters_iff hbindable htable).mp hfilters, hgiven⟩
  · rintro ⟨hbindable, hagreed, hgiven⟩
    obtain ⟨t, rounds, h, hlength⟩ := (rounds_iff hs hsess hnamed).mpr ⟨hbindable, hgiven⟩
    obtain ⟨hall, htable⟩ := rounds_spec hs hsess hnamed h hlength
    exact ⟨t, rounds, h, bearerBinding_of_rounds h, hall, (filters_iff hbindable htable).mpr hagreed⟩

/-! ## In every run -/

/-- In every state that can be reached, the named rules of a message for a session are bound as
they should be if and only if the table and the pools allow it. -/
theorem binds_iff [Ogslib] (cfg : PgwConfig) (compile : CString → Option PgwRule)
    (arrays : List (List PgwUeIp)) (s : PgwContext)
    (hs : Lts.Reaches (@Step maxNumOfFlow _ cfg compile) (initial arrays) s) (sess : PgwSessId)
    (hsess : s.sess.live sess = true)
    (rules : List (PccRule maxNumOfFlow × PgwBearerId × List PgwPfId)) (hnamed : Named rules) :
    s.Binds compile sess rules ↔
      Bindable compile (s.sessMem sess).qci (s.sessMem sess).arp rules (s.bindings sess) ∧
        Agreed compile rules (Binding.installs compile (s.sessMem sess).qci (s.sessMem sess).arp
          rules (s.bindings sess)) ∧ SlotsGiven compile sess rules s :=
  (tree_of_reaches hs).rules_bound_iff hsess hnamed

attribute [local instance] Ogslib.reference

/-- A session without rules. -/
def udpSession : PgwContext :=
  ((initial coincidingArrays).run coincidingSubnets
    (pgwCompilePacketFilter fun _ => some udpInsns)
    [(.createSessionRequest 1 1 [] [] Pgw.pdnTypeIpv4 5 0 0 7 none : Op 8)]).getD
      (initial coincidingArrays)

def udpRemoval : PccRule 8 := { udpPccRule with type := pccRuleTypeRemove }

/-- The rule is installed, and then it is removed. -/
def udpMessage : List (PccRule 8 × PgwBearerId × List PgwPfId) :=
  [(udpPccRule, 2, [0]), (udpRemoval, 3, [])]

/-- The default bearer of the session. -/
def defaultBinding : Binding := ⟨1, none, 0, ⟨0, 0, 0⟩, []⟩

/-- The bearer of the rule. -/
def udpBinding : Binding := ⟨2, udpPccRule.name, 1, ⟨1, 0, 0⟩, [(1, some udpRule)]⟩

theorem binds_iff_udp :
    udpSession.Binds (pgwCompilePacketFilter fun _ => some udpInsns) 1 udpMessage := by
  have hnamed : Named udpMessage := by
    intro r hr
    simp only [udpMessage, List.mem_cons, List.not_mem_nil, or_false] at hr
    rcases hr with rfl | rfl
    · exact ⟨⟨_, rfl⟩, Or.inl rfl⟩
    · exact ⟨⟨_, rfl⟩, Or.inr rfl⟩
  apply (binds_iff coincidingSubnets _ coincidingArrays udpSession
    (reaches_run (by decide +kernel)) 1 (by decide +kernel) udpMessage hnamed).mpr
  have htable : udpSession.bindings 1 = [defaultBinding] := by decide +kernel
  have hinstall : Binding.install (pgwCompilePacketFilter fun _ => some udpInsns)
      (udpSession.sessMem 1).qci (udpSession.sessMem 1).arp udpPccRule 2 [defaultBinding] =
        [defaultBinding, udpBinding] := by decide +kernel
  have hcompiles : ∀ f ∈ udpPccRule.flow, ∃ r,
      f.description.bind (pgwCompilePacketFilter fun _ => some udpInsns) = some r := by
    intro f hf
    rw [List.mem_singleton.mp hf]
    exact ⟨udpRule, compile_udp⟩
  have htype : udpPccRule.type = pccRuleTypeInstall := rfl
  have hremove : ¬udpRemoval.type = pccRuleTypeInstall := by decide
  have hinstalls : Binding.installs (pgwCompilePacketFilter fun _ => some udpInsns)
      (udpSession.sessMem 1).qci (udpSession.sessMem 1).arp udpMessage [defaultBinding] =
        [defaultBinding, udpBinding] := by
    rw [udpMessage, Binding.installs, if_pos htype, hinstall, Binding.installs, if_neg hremove]
    rfl
  rw [htable, hinstalls]
  refine ⟨?_, ?_, ?_⟩
  · rw [udpMessage, Bindable, if_pos htype, hinstall, Bindable, if_neg hremove]
    refine ⟨⟨?_, fun _ => by decide, hcompiles, by decide, by decide +kernel⟩, ?_, rfl⟩
    · intro e he
      have hnone : [defaultBinding].find? (Binding.isFor udpPccRule) = none := by decide
      rw [hnone] at he
      cases he
    · exact ⟨_, List.mem_cons_of_mem _ List.mem_cons_self, rfl⟩
  · intro e he filters hfilters
    simp only [List.mem_cons, List.not_mem_nil, or_false] at he
    rcases he with rfl | rfl
    · have hnone : lastInstalled (pgwCompilePacketFilter fun _ => some udpInsns)
          defaultBinding.name udpMessage = none := by decide
      rw [hnone] at hfilters
      cases hfilters
    · have hsome : lastInstalled (pgwCompilePacketFilter fun _ => some udpInsns)
          udpBinding.name udpMessage = some udpBinding.filters := by decide +kernel
      rw [hsome] at hfilters
      exact Option.some_inj.mp hfilters
  · rw [udpMessage, SlotsGiven]
    refine ⟨fun _ => ⟨rfl, by decide, fun _ => by decide +kernel, ?_⟩, ?_⟩
    · intro pf hpf
      rw [List.mem_singleton.mp hpf]
      exact Or.inl (by decide +kernel)
    · intro t out _
      exact ⟨fun h => absurd h (by decide), fun _ _ _ => trivial⟩

/-- The first message for a session removes a rule. -/
def unknownMessage (maxNumOfFlow : Nat) :
    List (PccRule maxNumOfFlow × PgwBearerId × List PgwPfId) :=
  [({ PccRule.cleared maxNumOfFlow with
      type := pccRuleTypeRemove, name := some (CString.copy [1]) }, 0, [])]

/-- The assertion on its bearer fails. -/
theorem not_binds_unknown : ¬∃ maxNumOfFlow : Nat,
    ∀ (cfg : PgwConfig) (compile : CString → Option PgwRule) (arrays : List (List PgwUeIp)),
      pgwUePoolGenerate cfg = .ok arrays → ∀ s,
        Lts.Reaches (@Step maxNumOfFlow _ cfg compile) (initial arrays) s →
          ∀ sess, s.sess.live sess = true →
            ∀ rules : List (PccRule maxNumOfFlow × PgwBearerId × List PgwPfId), Named rules →
              SlotsGiven compile sess rules s → s.Binds compile sess rules := by
  rintro ⟨maxNumOfFlow, hclaim⟩
  have hreaches := @reaches_withSession _ maxNumOfFlow Pgw.pdnTypeIpv4 (by decide)
  have hsess : (withSession Pgw.pdnTypeIpv4).sess.live 1 = true := by decide
  have hnamed : Named (unknownMessage maxNumOfFlow) := by
    intro r hr
    rw [List.mem_singleton.mp hr]
    exact ⟨⟨_, rfl⟩, Or.inr rfl⟩
  have hremove : pccRuleTypeRemove ≠ pccRuleTypeInstall := by decide
  have hbinds := hclaim _ _ _ pgwUePoolGenerate_coinciding _ hreaches 1 hsess
    (unknownMessage maxNumOfFlow) hnamed ⟨fun h => absurd h hremove, fun _ _ _ => trivial⟩
  obtain ⟨⟨⟨e, he, hname⟩, -⟩, -⟩ :=
    ((tree_of_reaches hreaches).rules_bound_iff hsess hnamed).mp hbinds
  have htable : ((withSession Pgw.pdnTypeIpv4).bindings 1).map Binding.name = [none] := by decide
  have hnone : e.name ∈ [none] := htable ▸ List.mem_map_of_mem he
  rw [List.mem_singleton.mp hnone] at hname
  cases hname

end PgwContext
end NextEpc

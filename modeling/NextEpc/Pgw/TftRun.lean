import NextEpc.Pgw.FilterOrder
import NextEpc.Pgw.TftBuild

/-!
# Templates for all filters that rules install

The filters of a bearer come from one rule, so that their identifiers follow one another. Whatever
rules came before, a bearer's template is written and read as it should be if and only if there
are at most 15 filters, they fit into the buffer, and each of them can be said with components.
-/

namespace NextEpc

theorem PgwRule.written_of_compile {compileRule : List Bytes → Option (List IpfwInsn)}
    (hmasked : ∀ av insns, compileRule av = some insns → ∀ insn ∈ insns, insn.Masked)
    {description : CString} {rule : PgwRule}
    (h : pgwCompilePacketFilter compileRule description = some rule) : rule.Written :=
  invariant_of_compile ⟨rfl, rfl⟩ (fun _ _ hinsn hrule => hrule.interpret hinsn) hmasked h

/-! ## Identifiers that follow one another -/

/-- From 1 to 15, and then from 1 again. -/
theorem toNat_iterate_nextPfIdentifier [Ogslib] {id : UInt8} (h : id ≤ 15) (n : Nat) :
    (nextPfIdentifier^[n + 1] id).toNat = (id.toNat + n) % 15 + 1 := by
  rw [UInt8.le_iff_toNat_le] at h
  have hid : id.toNat ≤ 15 := h
  induction n with
  | zero =>
    change (nextPfIdentifier id).toNat = _
    rw [nextPfIdentifier_eq]
    split
    next heq =>
      rw [heq]
      rfl
    next hne =>
      have hne : id.toNat ≠ 15 := fun heq => hne (UInt8.toNat_inj.mp heq)
      rw [UInt8.toNat_add]
      change (id.toNat + 1) % 256 = _
      omega
  | succ n ih =>
    rw [Function.iterate_succ_apply', nextPfIdentifier_eq]
    split
    next heq =>
      have heq := congrArg UInt8.toNat heq
      rw [ih] at heq
      change (id.toNat + n) % 15 + 1 = 15 at heq
      change 1 = _
      omega
    next hne =>
      have hne : (nextPfIdentifier^[n + 1] id).toNat ≠ 15 := fun heq => hne (UInt8.toNat_inj.mp heq)
      rw [UInt8.toNat_add, ih] at *
      change ((id.toNat + n) % 15 + 1 + 1) % 256 = _
      omega

/-- As it is encoded. -/
theorem toNat_iterate_sub_one [Ogslib] {id : UInt8} (h : id ≤ 15) (n : Nat) :
    ((nextPfIdentifier^[n + 1] id % 16 - 1) % 16).toNat = (id.toNat + n) % 15 := by
  have hnext := toNat_iterate_nextPfIdentifier h n
  have hmod : (nextPfIdentifier^[n + 1] id % 16).toNat = (id.toNat + n) % 15 + 1 := by
    rw [UInt8.toNat_mod, hnext]
    change ((id.toNat + n) % 15 + 1) % 16 = _
    omega
  have hone : (1 : UInt8) ≤ nextPfIdentifier^[n + 1] id % 16 := by
    rw [UInt8.le_iff_toNat_le, hmod]
    exact Nat.le_add_left 1 _
  rw [UInt8.toNat_mod, UInt8.toNat_sub_of_le _ _ hone, hmod]
  change ((id.toNat + n) % 15 + 1 - 1) % 16 = _
  omega

namespace PgwContext
variable {cfg : PgwConfig} {compile : CString → Option PgwRule} {maxNumOfFlow : Nat}
  {s t : PgwContext} {bearer b : PgwBearerId} {arrays : List (List PgwUeIp)}

/-! ## The filters of a bearer -/

/-- The filters of a bearer were compiled and have consecutive identifiers after `id`. -/
def NumberedFrom [Ogslib] (compile : CString → Option PgwRule) (s : PgwContext) (b : PgwBearerId)
    (id : UInt8) : Prop :=
  ∀ i pf, (s.bearers.mem b).pfList[i]? = some pf → ∃ description rule direction,
    compile description = some rule ∧
      s.pfs.mem pf = ⟨direction % 4, nextPfIdentifier^[i + 1] id % 16, rule, b⟩

structure Numbered [Ogslib] (compile : CString → Option PgwRule) (s : PgwContext) : Prop where
  tree : s.Tree
  identifiers : s.IdentifiersFit
  filters : ∀ b, s.bearers.live b = true → ∃ id ≤ 15, NumberedFrom compile s b id

theorem numberedFrom_of_nil [Ogslib] (h : (s.bearers.mem b).pfList = []) (id : UInt8) :
    NumberedFrom compile s b id := by
  intro i pf hpf
  rw [h] at hpf
  cases hpf

theorem AddsFilters.numberedFrom [Ogslib] {flows : List (Flow × PgwPfId)}
    (h : AddsFilters compile s bearer flows t) (hnil : (s.bearers.mem bearer).pfList = []) :
    NumberedFrom compile t bearer (s.bearers.mem bearer).pfIdentifier := by
  intro i pf hpf
  rw [h.record, hnil, List.nil_append, List.getElem?_map] at hpf
  obtain ⟨f, hf, rfl⟩ := Option.map_eq_some_iff.mp hpf
  obtain ⟨rule, hrule, hrecord⟩ := h.new i f hf
  obtain ⟨description, -, hcompile⟩ := Option.bind_eq_some_iff.mp hrule
  exact ⟨description, rule, f.1.direction, hcompile, hrecord⟩

/-- The filters of a bearer after a step: they are as before, or all of them were added to a
bearer without filters. -/
inductive FiltersAfter [Ogslib] (compile : CString → Option PgwRule) (s t : PgwContext)
    (b : PgwBearerId) :
    Prop
  | kept : s.bearers.live b = true → (t.bearers.mem b).pfList = (s.bearers.mem b).pfList →
    (∀ pf ∈ (s.bearers.mem b).pfList, t.pfs.mem pf = s.pfs.mem pf) → FiltersAfter compile s t b
  | none : (t.bearers.mem b).pfList = [] → FiltersAfter compile s t b
  | added {u : PgwContext} {flows : List (Flow × PgwPfId)} :
    (u.bearers.mem b).pfIdentifier = (s.bearers.mem b).pfIdentifier →
    (u.bearers.mem b).pfList = [] → AddsFilters compile u b flows t → FiltersAfter compile s t b

/-- Filters are added to one bearer, and those of the others stay. -/
theorem AddsFilters.filtersAfter [Ogslib] {u : PgwContext} {flows : List (Flow × PgwPfId)}
    (h : AddsFilters compile u bearer flows t) (hu : u.Links) (hpfs : u.pfs.mem = s.pfs.mem)
    (hidentifier : (u.bearers.mem bearer).pfIdentifier = (s.bearers.mem bearer).pfIdentifier)
    (hnil : (u.bearers.mem bearer).pfList = [])
    (hother : b ≠ bearer → u.bearers.live b = true → s.bearers.live b = true ∧
      (u.bearers.mem b).pfList = (s.bearers.mem b).pfList)
    (hlive : t.bearers.live b = true) : FiltersAfter compile s t b := by
  rw [h.live] at hlive
  by_cases hb : b = bearer
  · subst hb
    exact .added hidentifier hnil h
  · obtain ⟨hold, hlist⟩ := hother hb hlive
    refine .kept hold ?_ ?_
    · rw [h.other b hb, hlist]
    · intro pf hpf
      rw [← hlist] at hpf
      rw [(hu.filter_kept h hlive pf hpf).2, hpfs]

theorem Tree.filtersAfter [Ogslib] {a : Op maxNumOfFlow × List PgwOutput} (h : s.Tree)
    (hstep : Step cfg compile s a t) (hb : t.bearers.live b = true) :
    FiltersAfter compile s t b := by
  obtain ⟨op, out⟩ := a
  have hsame (hlive : s.bearers.live b = true)
      (hlist : (t.bearers.mem b).pfList = (s.bearers.mem b).pfList)
      (hpfs : t.pfs.mem = s.pfs.mem) : FiltersAfter compile s t b :=
    .kept hlive hlist fun pf _ => congrFun hpfs pf
  cases effect_of_step hstep with
  | @createSessionRequest _ bearer _ _ _ _ _ _ _ _ _ hcreates =>
    by_cases hbb : b = bearer
    · exact .none (by simp [hcreates.bearers, hbb, PgwBearerRecord.add])
    · apply hsame (((hcreates.live_bearer b).mp hb).resolve_left hbb)
      · simp [hcreates.bearers, hbb]
      · rw [hcreates.pfs]
  | @createBearer _ rule bearer _ _ _ _ hsess _ _ _ hcreates =>
    apply hcreates.filters.filtersAfter (s := s) (hcreates.links h.toLinks hsess) rfl _ _ _ hb
    · simp [setBearer, bearerAdded, PgwBearerRecord.add]
    · simp [setBearer, bearerAdded, PgwBearerRecord.add]
    · intro hbb hlive
      simpa [setBearer, bearerAdded, hbb] using hlive
  | @updateBearer _ rule _ bearer pfs _ _ _ hsess _ _ hfind hupdates =>
    have hlive := h.live_of_mem hsess (mem_of_findByQciArp hfind)
    have heq := rebound_eq h.toLinks hlive rule
    by_cases hnone : rule.flow = []
    · have hupdated := hupdates.filters
      rw [show rule.flow.zip pfs = [] by rw [hnone, List.zip_nil_left]] at hupdated
      apply hsame
      · rw [hupdated.live, heq] at hb
        exact hb
      · rw [hupdated.pfList_nil b, heq, Pool.mem_modify]
        split <;> simp [*]
      · funext pf
        rw [hupdated.filter pf List.not_mem_nil, heq]
        simp [hnone]
    · apply hupdates.filters.filtersAfter (h.toLinks.rebound hlive rule).1 _ _ _ _ hb
      · simp [heq, hnone]
      · rw [rebound_record h.toLinks hlive rule bearer]
      · simp [heq, hnone]
      · intro hbb hlive
        rw [heq] at hlive ⊢
        simpa [hbb] using hlive
  | deleteBearerResponse hsess hfind =>
    have hlive := h.live_of_mem hsess (List.mem_of_find?_eq_some hfind)
    have hremoves := h.toLinks.removes hlive
    obtain ⟨hne, hold⟩ := (hremoves.live b).mp hb
    exact hsame hold (by rw [hremoves.record b hne]) hremoves.filters
  | sessRemove hsess =>
    have hremoves := (h.sessRemove hsess).2
    exact hsame ((hremoves.bearers b).mp hb).1 (by rw [hremoves.record b hb]) hremoves.filters
  | createBearerResponse =>
    refine hsame hb ?_ rfl
    simp only [setBearer, Pool.mem_modify]
    split <;> simp [*]
  | sendCcr => exact hsame hb rfl rfl
  | noRule => exact hsame hb rfl rfl
  | removeRule => exact hsame hb rfl rfl
  | noBearerResponse => exact hsame hb rfl rfl
  | noDeleteResponse => exact hsame hb rfl rfl

theorem Numbered.step [Ogslib] {a : Op maxNumOfFlow × List PgwOutput} (h : Numbered compile s)
    (hstep : Step cfg compile s a t) : Numbered compile t := by
  refine ⟨h.tree.step hstep, h.identifiers.step h.tree hstep, ?_⟩
  intro b hb
  cases h.tree.filtersAfter hstep hb with
  | kept hlive hlist hfilters =>
    obtain ⟨id, hid, hnumbered⟩ := h.filters b hlive
    refine ⟨id, hid, ?_⟩
    intro i pf hpf
    rw [hlist] at hpf
    obtain ⟨description, rule, direction, hcompile, hrecord⟩ := hnumbered i pf hpf
    exact ⟨description, rule, direction, hcompile,
      (hfilters pf (List.mem_of_getElem? hpf)).trans hrecord⟩
  | none hnil => exact ⟨0, by decide, numberedFrom_of_nil hnil 0⟩
  | added hidentifier hnil hadds =>
    exact ⟨_, hidentifier ▸ h.identifiers b, hadds.numberedFrom hnil⟩

theorem numbered_initial [Ogslib] (arrays : List (List PgwUeIp)) : Numbered compile
    (initial arrays) := by
  refine ⟨tree_initial arrays, ?_, nofun⟩
  intro b
  exact (by decide : (0 : UInt8) ≤ 15)

theorem numbered_of_reaches [Ogslib]
    (h : Lts.Reaches (@Step maxNumOfFlow _ cfg compile) (initial arrays) s) :
    Numbered compile s := by
  apply h.invariant (I := Numbered compile)
  · exact fun s a t hs hstep => hs.step hstep
  · exact numbered_initial arrays

/-! ## Templates as they should be -/

/-- The filters of a bearer as a UE should know them: identifiers begin with 0 there. -/
def filtersOf (s : PgwContext) (b : PgwBearerId) : List (UInt8 × UInt8 × PgwRule) :=
  (s.bearers.mem b).pfList.map fun pf =>
    ((s.pfs.mem pf).direction, (s.pfs.mem pf).identifier - 1, (s.pfs.mem pf).rule)

/-- What a UE makes of a filter. -/
def readFilter (f : TftPacketFilter) : UInt8 × UInt8 × PgwRule :=
  (f.direction, f.identifier, f.component.foldl PgwRule.describe .blank)

/-- The octets of a template say which filters the bearer has. -/
structure Conveys (s : PgwContext) (b : PgwBearerId) (tft : GtpTft) (octets : Bytes) : Prop where
  room : octets.length ≤ maxTrafficFlowTemplate
  count : tft.numOfPacketFilter.toNat = (s.bearers.mem b).pfList.length
  identifiers : (tft.pf.map GtpPacketFilter.identifier).Nodup
  lengths : ∀ f ∈ tft.pf, f.length.toNat = (f.component.flatMap TftComponent.octets).length
  decode : (Tft.decode octets).map (List.map readFilter) = some (s.filtersOf b)

/-- The template of a bearer is filled in and written without an assertion. -/
def EncodesTft (s : PgwContext) (b : PgwBearerId) : Prop :=
  ∃ tft octets, s.encodeTft b = .ok tft ∧
    ogsGtpBuildTft maxTrafficFlowTemplate tft = .ok octets ∧ s.Conveys b tft octets

/-- There are fewer filters than 4 bits can count, they fit, and components can say them. -/
structure TftFits (s : PgwContext) (b : PgwBearerId) : Prop where
  count : (s.bearers.mem b).pfList.length < 16
  room : 1 + ((s.bearers.mem b).pfList.map fun pf => 3 + (s.pfs.mem pf).rule.tftLen).sum ≤
    maxTrafficFlowTemplate
  expressible : ∀ pf ∈ (s.bearers.mem b).pfList, (s.pfs.mem pf).rule.Expressible

theorem length_encodeTrafficFlowTemplate :
    (s.encodeTrafficFlowTemplate b).length = (s.bearers.mem b).pfList.length := List.length_mapIdx

theorem getElem?_encodeTrafficFlowTemplate {i : Nat} {pf : PgwPfId}
    (h : (s.bearers.mem b).pfList[i]? = some pf) : (s.encodeTrafficFlowTemplate b)[i]? =
      some ⟨(s.pfs.mem pf).direction, (s.pfs.mem pf).identifier - 1, UInt8.ofNat (i + 1),
        (s.pfs.mem pf).rule.components⟩ := by
  rw [encodeTrafficFlowTemplate, List.getElem?_mapIdx, h]
  rfl

/-- A function of the filters that does not look at their places. -/
theorem map_encodeTrafficFlowTemplate {α : Type} {f : TftPacketFilter → α} {g : PgwPfRecord → α}
    (h : ∀ pf precedence, f ⟨pf.direction, pf.identifier - 1, precedence, pf.rule.components⟩ =
      g pf) : (s.encodeTrafficFlowTemplate b).map f =
        (s.bearers.mem b).pfList.map fun pf => g (s.pfs.mem pf) := by
  apply List.ext_getElem?
  intro i
  rw [encodeTrafficFlowTemplate, List.getElem?_map, List.getElem?_map, List.getElem?_mapIdx,
    Option.map_map]
  exact congrArg (fun f => Option.map f _) (funext fun pf => h _ _)

variable {id : UInt8}

theorem NumberedFrom.fits [Ogslib] (h : NumberedFrom compile s b id) (hid : id ≤ 15) :
    ∀ f ∈ s.encodeTrafficFlowTemplate b, Tft.Fits f := by
  intro f hf
  obtain ⟨i, hi⟩ := List.mem_iff_getElem?.mp hf
  obtain ⟨pf, hpf⟩ : ∃ pf, (s.bearers.mem b).pfList[i]? = some pf := by
    rw [encodeTrafficFlowTemplate, List.getElem?_mapIdx] at hi
    obtain ⟨pf, hpf, -⟩ := Option.map_eq_some_iff.mp hi
    exact ⟨pf, hpf⟩
  rw [getElem?_encodeTrafficFlowTemplate hpf] at hi
  obtain ⟨description, rule, direction, -, hrecord⟩ := h i pf hpf
  cases hi
  rw [hrecord]
  have hnext := toNat_iterate_nextPfIdentifier hid i
  constructor
  · rw [UInt8.toNat_mod]
    exact Nat.mod_lt _ (by decide)
  · change (nextPfIdentifier^[i + 1] id % 16 - 1).toNat < 16
    rw [UInt8.toNat_sub, UInt8.toNat_mod, hnext]
    change (256 - 1 + ((id.toNat + i) % 15 + 1) % 16) % 256 < 16
    omega
  · rw [PgwRule.sum_len_components]
    exact rule.tftLen_lt

/-- Up to 15 consecutive identifiers are different. -/
theorem NumberedFrom.nodup [Ogslib] (h : NumberedFrom compile s b id) (hid : id ≤ 15)
    (hcount : (s.bearers.mem b).pfList.length < 16) :
    (((s.encodeTrafficFlowTemplate b).map TftPacketFilter.target).map
      GtpPacketFilter.identifier).Nodup := by
  have hget : ∀ i, i < (s.bearers.mem b).pfList.length → ∃ value,
      ((((s.encodeTrafficFlowTemplate b).map TftPacketFilter.target).map
        GtpPacketFilter.identifier))[i]? = some value ∧ value.toNat = (id.toNat + i) % 15 := by
    intro i hi
    have hpf := List.getElem?_eq_getElem hi
    obtain ⟨-, rule, direction, -, hrecord⟩ := h i _ hpf
    refine ⟨_, ?_, toNat_iterate_sub_one hid i⟩
    rw [List.getElem?_map, List.getElem?_map, getElem?_encodeTrafficFlowTemplate hpf, hrecord]
    rfl
  rw [List.nodup_iff_getElem?_ne_getElem?]
  intro i j hij hj heq
  rw [List.length_map, List.length_map, length_encodeTrafficFlowTemplate] at hj
  obtain ⟨value, hi, hvalue⟩ := hget i (hij.trans hj)
  obtain ⟨value', hj', hvalue'⟩ := hget j hj
  rw [hi, hj', Option.some_inj] at heq
  rw [heq] at hvalue
  omega

/-! ## Exactly when they are -/

/-- The number of octets: the filters are counted with 4 bits. -/
theorem length_octets_encodeTft (s : PgwContext) (b : PgwBearerId) :
    (GtpTft.octets ⟨tftCodeCreateNewTft, UInt8.ofNat ((s.encodeTrafficFlowTemplate b).length % 16),
      (s.encodeTrafficFlowTemplate b).map TftPacketFilter.target⟩).length =
        1 + (((s.bearers.mem b).pfList.map fun pf => 3 + (s.pfs.mem pf).rule.tftLen).take
          ((s.bearers.mem b).pfList.length % 16)).sum := by
  have hnum : (UInt8.ofNat ((s.encodeTrafficFlowTemplate b).length % 16)).toNat =
      (s.bearers.mem b).pfList.length % 16 := by
    rw [length_encodeTrafficFlowTemplate, UInt8.toNat_ofNat']
    omega
  have hlength : ((s.encodeTrafficFlowTemplate b).map TftPacketFilter.target).map
      (fun f => f.octets.length) =
        (s.bearers.mem b).pfList.map fun pf => 3 + (s.pfs.mem pf).rule.tftLen := by
    rw [List.map_map]
    apply map_encodeTrafficFlowTemplate (g := fun pf => 3 + pf.rule.tftLen)
    intro pf precedence
    have hcomponents := length_flatMap_octets pf.rule.components
    rw [PgwRule.sum_len_components] at hcomponents
    simp only [Function.comp_apply, TftPacketFilter.target, GtpPacketFilter.octets,
      List.length_append, List.length_singleton, hcomponents]
    omega
  rw [GtpTft.octets, hnum, List.length_append, List.length_singleton, List.length_flatMap,
    List.map_take, hlength]

/-- Fewer than 16 filters are all counted. -/
theorem length_octets_of_lt (hcount : (s.bearers.mem b).pfList.length < 16) :
    (GtpTft.octets ⟨tftCodeCreateNewTft, UInt8.ofNat ((s.encodeTrafficFlowTemplate b).length % 16),
      (s.encodeTrafficFlowTemplate b).map TftPacketFilter.target⟩).length =
        1 + ((s.bearers.mem b).pfList.map fun pf => 3 + (s.pfs.mem pf).rule.tftLen).sum := by
  rw [length_octets_encodeTft, Nat.mod_eq_of_lt hcount,
    List.take_of_length_le (by rw [List.length_map])]

/-- The filters that were read are those of the bearer if components can say them. -/
theorem NumberedFrom.read_eq_iff [Ogslib] (h : NumberedFrom compile s b id)
    (hwritten : ∀ description rule, compile description = some rule → rule.Written) :
    (s.encodeTrafficFlowTemplate b).map readFilter = s.filtersOf b ↔
      ∀ pf ∈ (s.bearers.mem b).pfList, (s.pfs.mem pf).rule.Expressible := by
  rw [map_encodeTrafficFlowTemplate (g := fun pf => (pf.direction, pf.identifier - 1,
    pf.rule.components.foldl PgwRule.describe .blank)) fun _ _ => rfl, filtersOf,
    List.map_inj_left]
  apply forall₂_congr
  intro pf hpf
  obtain ⟨i, hi⟩ := List.mem_iff_getElem?.mp hpf
  obtain ⟨description, rule, direction, hcompile, hrecord⟩ := h i pf hi
  rw [hrecord, ← PgwRule.describe_eq_iff (hwritten description rule hcompile)]
  exact ⟨fun heq => congrArg (·.2.2) heq, fun heq => by rw [heq]⟩

theorem Numbered.tft_encodes_iff [Ogslib] (h : Numbered compile s) (hb : s.bearers.live b = true)
    (hwritten : ∀ description rule, compile description = some rule → rule.Written) :
    s.EncodesTft b ↔ s.TftFits b := by
  obtain ⟨id, hid, hnumbered⟩ := h.filters b hb
  have hfits := hnumbered.fits hid
  have hlength : (s.encodeTrafficFlowTemplate b).length = _ := length_encodeTrafficFlowTemplate
  constructor
  · rintro ⟨tft, octets, htft, hoctets, hconveys⟩
    rw [encodeTft] at htft
    split at htft
    · cases htft
      have hcount : (s.bearers.mem b).pfList.length < 16 := by
        rw [← hconveys.count, UInt8.toNat_ofNat']
        omega
      obtain ⟨-, rfl⟩ := (ogsGtpBuildTft_eq_ok le_rfl).mp hoctets
      refine ⟨hcount, ?_, ?_⟩
      · rw [← length_octets_of_lt hcount]
        exact hconveys.room
      · apply (hnumbered.read_eq_iff hwritten).mp
        have hdecode := hconveys.decode
        rw [Tft.decode_octets hfits (hlength ▸ hcount)] at hdecode
        exact Option.some_inj.mp hdecode
    · cases htft
  · intro hfit
    have hcount := hfit.count
    have hroom := hfit.room
    rw [← length_octets_of_lt hcount] at hroom
    refine ⟨_, _, if_pos ?_, (ogsGtpBuildTft_eq_ok le_rfl).mpr ⟨hroom, rfl⟩, hroom, ?_, ?_, ?_, ?_⟩
    · rw [hlength, maxNumOfPacketFilter]
      omega
    · rw [hlength, UInt8.toNat_ofNat']
      omega
    · exact hnumbered.nodup hid hcount
    · exact List.forall_mem_map.mpr fun f hf => (hfits f hf).toNat_length
    · rw [Tft.decode_octets hfits (hlength ▸ hcount)]
      exact congrArg some ((hnumbered.read_eq_iff hwritten).mpr hfit.expressible)

/-- In every run the template of a bearer is as it should be if and only if it fits. -/
theorem encodesTft_iff [Ogslib] (cfg : PgwConfig)
    {compileRule : List Bytes → Option (List IpfwInsn)}
    (hmasked : ∀ av insns, compileRule av = some insns → ∀ insn ∈ insns, insn.Masked)
    (arrays : List (List PgwUeIp)) (s : PgwContext)
    (hs : Lts.Reaches (@Step maxNumOfFlow _ cfg (pgwCompilePacketFilter compileRule))
      (initial arrays) s) (b : PgwBearerId) (hb : s.bearers.live b = true) :
    s.EncodesTft b ↔ s.TftFits b := by
  apply (numbered_of_reaches hs).tft_encodes_iff hb
  exact fun _ _ h => PgwRule.written_of_compile hmasked h

attribute [local instance] Ogslib.reference

/-- A rule with one UDP flow. -/
def udpPccRule : PccRule 8 :=
  { anyPacketRule with
    flow := [⟨1, some udpDescription⟩]
    flow_le := by decide }

/-- A session with a bearer for the rule. -/
def withUdp : PgwContext :=
  ((initial coincidingArrays).run coincidingSubnets
    (pgwCompilePacketFilter fun _ => some udpInsns)
    [.createSessionRequest 1 1 [] [] Pgw.pdnTypeIpv4 5 0 0 7 none,
      .pccRule 1 udpPccRule 2 [0]]).getD (initial coincidingArrays)

theorem encodesTft_iff_udp : withUdp.EncodesTft 2 := by
  apply (encodesTft_iff coincidingSubnets masked_udp coincidingArrays withUdp
    (reaches_run (by decide +kernel)) 2 (by decide +kernel)).mpr
  have hlist : (withUdp.bearers.mem 2).pfList = [0] := by decide +kernel
  have hrule : (withUdp.pfs.mem 0).rule = udpRule := by decide +kernel
  constructor
  · decide +kernel
  · decide +kernel
  · rw [hlist]
    intro pf hpf
    rw [List.mem_singleton.mp hpf, hrule]
    exact ⟨by decide, by decide, nofun, nofun⟩

/-- `"permit out udp from fd00::1 80-90 to fd00::2 100-110"` -/
def ipv6Description : CString where
  octets := [
    0x70, 0x65, 0x72, 0x6d, 0x69, 0x74, 0x20, 0x6f, 0x75, 0x74, 0x20, 0x75, 0x64, 0x70, 0x20,
    0x66, 0x72, 0x6f, 0x6d, 0x20, 0x66, 0x64, 0x30, 0x30, 0x3a, 0x3a, 0x31, 0x20, 0x38, 0x30,
    0x2d, 0x39, 0x30, 0x20, 0x74, 0x6f, 0x20, 0x66, 0x64, 0x30, 0x30, 0x3a, 0x3a, 0x32, 0x20,
    0x31, 0x30, 0x30, 0x2d, 0x31, 0x31, 0x30]
  nonzero := by decide

/-- What `compile_rule` makes of it. -/
def ipv6Insns : List IpfwInsn :=
  [⟨.proto 17, false, false⟩, ⟨.ip6Src #v[0xfd, 0, 0, 0x01000000], false, false⟩,
    ⟨.ipSrcport ⟨80, 90⟩ [], false, false⟩, ⟨.ip6Dst #v[0xfd, 0, 0, 0x02000000], false, false⟩,
    ⟨.ipDstport ⟨100, 110⟩ [], false, false⟩]

/-- Five flows of which each takes 51 octets. -/
def ipv6PccRule : PccRule 8 :=
  { anyPacketRule with
    flow := List.replicate 5 ⟨1, some ipv6Description⟩
    flow_le := by decide }

def withIpv6 : PgwContext :=
  ((initial coincidingArrays).run coincidingSubnets
    (pgwCompilePacketFilter fun _ => some ipv6Insns)
    [.createSessionRequest 1 1 [] [] Pgw.pdnTypeIpv4 5 0 0 7 none,
      .pccRule 1 ipv6PccRule 2 [0, 1, 2, 3, 4]]).getD (initial coincidingArrays)

/-- Together with the first octet these are 256, and the assertion on the size fails. -/
theorem not_encodesTft_ipv6 : ¬∀ (cfg : PgwConfig)
    (compileRule : List Bytes → Option (List IpfwInsn)),
    (∀ av insns, compileRule av = some insns → ∀ insn ∈ insns, insn.Masked) →
    ∀ arrays : List (List PgwUeIp), pgwUePoolGenerate cfg = .ok arrays → ∀ s,
      Lts.Reaches (@Step 8 _ cfg (pgwCompilePacketFilter compileRule)) (initial arrays) s →
      ∀ b, s.bearers.live b = true → s.EncodesTft b := by
  intro hclaim
  have hmasked : ∀ av insns, (fun _ : List Bytes => some ipv6Insns) av = some insns →
      ∀ insn ∈ insns, insn.Masked := by
    rintro - insns ⟨⟩ insn hinsn
    simp only [ipv6Insns, List.mem_cons, List.not_mem_nil, or_false] at hinsn
    rcases hinsn with rfl | rfl | rfl | rfl | rfl <;> trivial
  have hreaches : Lts.Reaches (@Step 8 _ coincidingSubnets
      (pgwCompilePacketFilter fun _ => some ipv6Insns)) (initial coincidingArrays) withIpv6 :=
    reaches_run (by decide +kernel)
  have hlive : withIpv6.bearers.live 2 = true := by decide +kernel
  have hfits := ((numbered_of_reaches hreaches).tft_encodes_iff hlive
    fun _ _ h => PgwRule.written_of_compile hmasked h).mp
      (hclaim _ _ hmasked _ pgwUePoolGenerate_coinciding _ hreaches 2 hlive)
  have hroom : ¬1 + ((withIpv6.bearers.mem 2).pfList.map fun pf =>
      3 + (withIpv6.pfs.mem pf).rule.tftLen).sum ≤ maxTrafficFlowTemplate := by decide +kernel
  exact hroom hfits.room

end PgwContext
end NextEpc

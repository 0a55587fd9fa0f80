import NextEpc.Pgw.FreshSlot

/-!
# The order in which packet filters are evaluated

A UE evaluates the packet filters of a PDN connection in the order of the precedence values that
were sent to it; the PGW goes through the dedicated bearers in the order of their list. Here is
exactly when the two agree.
-/

namespace NextEpc

/-- A PGW with the template that was last sent for each bearer, and the precedence of the rule
that each packet filter comes from. -/
structure PgwMonitor where
  ctx : PgwContext
  tft : PgwBearerId → List TftPacketFilter
  precedence : PgwPfId → UInt32

/-- The templates after a message was sent. -/
def PgwOutput.record (tft : PgwBearerId → List TftPacketFilter) :
    PgwOutput → PgwBearerId → List TftPacketFilter
  | .createBearerRequest bearer _ _ _ _ sent => Function.update tft bearer sent
  | .updateBearerRequest bearer _ _ (some sent) => Function.update tft bearer sent
  | _ => tft

/-- The precedences after a rule has added its filters. -/
def PgwContext.Op.record {maxNumOfFlow : Nat} (precedence : PgwPfId → UInt32) :
    PgwContext.Op maxNumOfFlow → PgwPfId → UInt32
  | .pccRule _ rule _ pfs =>
    if rule.name.isSome ∧ rule.type = pccRuleTypeInstall then
      fun pf => if pf ∈ pfs then rule.precedence else precedence pf
    else precedence
  | _ => precedence

/-- The rule where there is room for more flows. -/
def PccRule.widen {k n : Nat} (h : k ≤ n) (rule : PccRule k) : PccRule n :=
  { rule with flow_le := rule.flow_le.trans h }

/-- The event where a rule has room for more flows. -/
def PgwContext.Op.widen {k n : Nat} (h : k ≤ n) : PgwContext.Op k → PgwContext.Op n
  | .createSessionRequest sess bearer imsi apn pdnType ebi index4 index6 gnode req =>
    .createSessionRequest sess bearer imsi apn pdnType ebi index4 index6 gnode req
  | .sendCcr sess sid => .sendCcr sess sid
  | .pccRule sess rule bearer pfs => .pccRule sess (rule.widen h) bearer pfs
  | .createBearerResponse sess rsp => .createBearerResponse sess rsp
  | .deleteBearerResponse sess ebi => .deleteBearerResponse sess ebi
  | .sessRemove sess => .sessRemove sess

namespace PgwMonitor
variable {cfg : PgwConfig} {compile : CString → Option PgwRule} {maxNumOfFlow : Nat}
  {m m' : PgwMonitor} {sess : PgwSessId} {bearer b : PgwBearerId} {pf : PgwPfId} {i : Nat}

def initial (arrays : List (List PgwUeIp)) : PgwMonitor :=
  ⟨PgwContext.initial arrays, fun _ => [], fun _ => 0⟩

structure Step [Ogslib] (cfg : PgwConfig) (compile : CString → Option PgwRule) (m : PgwMonitor)
    (a : PgwContext.Op maxNumOfFlow × List PgwOutput) (m' : PgwMonitor) : Prop where
  ctx : PgwContext.Step cfg compile m.ctx a m'.ctx
  tft : m'.tft = a.2.foldl PgwOutput.record m.tft
  precedence : m'.precedence = a.1.record m.precedence

/-! ## The order of the filters -/

/-- The `i`-th filter of a bearer in a session. -/
structure IsFilter (m : PgwMonitor) (sess : PgwSessId) (bearer : PgwBearerId) (i : Nat)
    (pf : PgwPfId) : Prop where
  live : m.ctx.sess.live sess = true
  listed : bearer ∈ (m.ctx.sessMem sess).bearerList
  filter : (m.ctx.bearers.mem bearer).pfList[i]? = some pf

/-- The precedence value that was sent with the `i`-th filter of a bearer. -/
def sent (m : PgwMonitor) (bearer : PgwBearerId) (i : Nat) : Option UInt8 :=
  (m.tft bearer)[i]?.map TftPacketFilter.precedence

/-- The filters of a session were sent with different precedence values, in the order of their
rules, and the bearer for a packet has a matching filter that comes before all others. -/
structure Ordered (m : PgwMonitor) : Prop where
  sent : ∀ sess b i pf, m.IsFilter sess b i pf → ∃ value, m.sent b i = some value
  distinct : ∀ sess b i pf b' i' pf', m.IsFilter sess b i pf → m.IsFilter sess b' i' pf' →
    m.sent b i = m.sent b' i' → b = b' ∧ i = i'
  ordered : ∀ sess b i pf b' i' pf' value value', m.IsFilter sess b i pf →
    m.IsFilter sess b' i' pf' → m.precedence pf < m.precedence pf' → m.sent b i = some value →
    m.sent b' i' = some value' → value < value'
  lowest : ∀ mem hdr sess b i pf value c, m.IsFilter sess b i pf →
    (m.ctx.bearers.mem b).ebi ≠ 0 → (m.ctx.pfs.mem pf).matchesPacket mem hdr = true →
    m.sent b i = some value → m.ctx.bearerInSess mem hdr sess = some c →
    ∃ j pf' value', m.IsFilter sess c j pf' ∧ (m.ctx.pfs.mem pf').matchesPacket mem hdr = true ∧
      m.sent c j = some value' ∧ value' ≤ value

/-- At most one bearer of a session has filters. -/
def OneFiltered (s : PgwContext) : Prop :=
  ∀ sess, s.sess.live sess = true → ∀ b ∈ (s.sessMem sess).bearerList,
    ∀ b' ∈ (s.sessMem sess).bearerList, (s.bearers.mem b).pfList ≠ [] →
      (s.bearers.mem b').pfList ≠ [] → b = b'

/-- A rule with flows is for the only bearer of the session that has filters, if there is one. -/
def SameBearer (m : PgwMonitor) (a : PgwContext.Op maxNumOfFlow × List PgwOutput) : Prop :=
  match a.1 with
  | .pccRule sess rule _ _ => rule.name.isSome → rule.type = pccRuleTypeInstall →
    rule.flow ≠ [] → ∀ b ∈ (m.ctx.sessMem sess).bearerList, (m.ctx.bearers.mem b).pfList ≠ [] →
      m.ctx.pgwBearerFindByQciArp sess rule.qos.qci rule.qos.arp = some b
  | _ => True

/-- What was sent for a bearer are the filters that it has, and these come from one rule. -/
structure BearerRecorded (maxNumOfFlow : Nat) (m : PgwMonitor) (b : PgwBearerId) : Prop where
  sent : (m.ctx.bearers.mem b).pfList ≠ [] → m.tft b = m.ctx.encodeTrafficFlowTemplate b
  length : (m.ctx.bearers.mem b).pfList.length ≤ maxNumOfFlow
  precedence : ∀ pf ∈ (m.ctx.bearers.mem b).pfList, ∀ pf' ∈ (m.ctx.bearers.mem b).pfList,
    m.precedence pf = m.precedence pf'

/-- What holds in every run. -/
structure Recorded (maxNumOfFlow : Nat) (m : PgwMonitor) : Prop where
  tree : m.ctx.Tree
  bearers : ∀ b, m.ctx.bearers.live b = true → m.BearerRecorded maxNumOfFlow b

theorem IsFilter.live_bearer (h : m.IsFilter sess bearer i pf) (htree : m.ctx.Tree) :
    m.ctx.bearers.live bearer = true := htree.live_of_mem h.live h.listed

theorem IsFilter.ne_nil (h : m.IsFilter sess bearer i pf) :
    (m.ctx.bearers.mem bearer).pfList ≠ [] := by
  intro hnil
  have hfilter := h.filter
  rw [hnil] at hfilter
  cases hfilter

/-- The filters of a bearer are numbered from 1. -/
theorem Recorded.sent_eq (h : m.Recorded maxNumOfFlow) (hfilter : m.IsFilter sess bearer i pf) :
    m.sent bearer i = some (UInt8.ofNat (i + 1)) := by
  rw [PgwMonitor.sent, (h.bearers bearer (hfilter.live_bearer h.tree)).sent hfilter.ne_nil,
    PgwContext.encodeTrafficFlowTemplate, List.getElem?_mapIdx, hfilter.filter]
  rfl

theorem IsFilter.lt (h : m.IsFilter sess bearer i pf) (hrecorded : m.Recorded maxNumOfFlow) :
    i < maxNumOfFlow := by
  obtain ⟨hi, -⟩ := List.getElem?_eq_some_iff.mp h.filter
  exact lt_of_lt_of_le hi (hrecorded.bearers bearer (h.live_bearer hrecorded.tree)).length

theorem ofNat_inj {i j : Nat} (hi : i < maxNumOfPacketFilter) (hj : j < maxNumOfPacketFilter)
    (h : UInt8.ofNat (i + 1) = UInt8.ofNat (j + 1)) : i = j := by
  rw [← UInt8.toNat_inj, UInt8.toNat_ofNat', UInt8.toNat_ofNat'] at h
  simp only [maxNumOfPacketFilter] at hi hj
  omega

/-- The first filters of two bearers are sent with the same precedence. -/
theorem Recorded.ordered_iff (h : m.Recorded maxNumOfFlow)
    (hmax : maxNumOfFlow ≤ maxNumOfPacketFilter) : m.Ordered ↔ OneFiltered m.ctx := by
  constructor
  · intro hordered sess hsess b hb b' hb' hne hne'
    obtain ⟨pf, pfs, hlist⟩ := List.exists_cons_of_ne_nil hne
    obtain ⟨pf', pfs', hlist'⟩ := List.exists_cons_of_ne_nil hne'
    have hfilter : m.IsFilter sess b 0 pf := ⟨hsess, hb, by rw [hlist]; rfl⟩
    have hfilter' : m.IsFilter sess b' 0 pf' := ⟨hsess, hb', by rw [hlist']; rfl⟩
    apply (hordered.distinct sess b 0 pf b' 0 pf' hfilter hfilter' _).1
    rw [h.sent_eq hfilter, h.sent_eq hfilter']
  · intro hone
    have hsame : ∀ sess b i pf b' i' pf', m.IsFilter sess b i pf → m.IsFilter sess b' i' pf' →
        b = b' := fun sess b i pf b' i' pf' hfilter hfilter' =>
      hone sess hfilter.live b hfilter.listed b' hfilter'.listed hfilter.ne_nil hfilter'.ne_nil
    constructor
    · intro sess b i pf hfilter
      exact ⟨_, h.sent_eq hfilter⟩
    · intro sess b i pf b' i' pf' hfilter hfilter' heq
      refine ⟨hsame _ _ _ _ _ _ _ hfilter hfilter', ?_⟩
      rw [h.sent_eq hfilter, h.sent_eq hfilter', Option.some_inj] at heq
      exact ofNat_inj (lt_of_lt_of_le (hfilter.lt h) hmax)
        (lt_of_lt_of_le (hfilter'.lt h) hmax) heq
    · intro sess b i pf b' i' pf' value value' hfilter hfilter' hlt
      -- the filters of one bearer come from one rule
      have hb := hsame _ _ _ _ _ _ _ hfilter hfilter'
      subst hb
      have heq := (h.bearers b (hfilter.live_bearer h.tree)).precedence pf
        (List.mem_of_getElem? hfilter.filter) pf' (List.mem_of_getElem? hfilter'.filter)
      rw [heq] at hlt
      exact absurd hlt (UInt32.lt_irrefl _)
    · intro mem hdr sess b i pf value c hfilter hebi hmatches hvalue hc
      have hbearer : c = b := by
        have hlisted := hfilter.listed
        obtain ⟨defaultBearer, bearers, hlist⟩ := List.exists_cons_of_ne_nil
          (List.ne_nil_of_mem hlisted)
        rcases h.tree.bearerInSess_cases hfilter.live hlist hc with ⟨rfl, hnone⟩ |
          ⟨hmem, -, pf', hpf', -⟩
        · rw [hlist] at hlisted
          rcases List.mem_cons.mp hlisted with rfl | hb
          · rfl
          · -- a bearer whose filter matches is not passed over
            have hfind := hnone b hb
            rw [PgwContext.bearerOfFilter, if_neg hebi, Option.map_eq_none_iff,
              List.find?_eq_none] at hfind
            exact absurd hmatches (hfind pf (List.mem_of_getElem? hfilter.filter))
        · apply hone sess hfilter.live c _ b hlisted (List.ne_nil_of_mem hpf') hfilter.ne_nil
          rw [hlist]
          exact List.mem_cons_of_mem _ hmem
      subst hbearer
      exact ⟨i, pf, value, hfilter, hmatches, hvalue, UInt8.le_refl value⟩

/-! ## Steps -/

theorem bearerRecorded_of_nil (h : (m.ctx.bearers.mem b).pfList = []) :
    m.BearerRecorded maxNumOfFlow b := by
  constructor
  · exact fun hne => absurd h hne
  · simp [h]
  · simp [h]

/-- A bearer whose filters are the same. -/
theorem BearerRecorded.congr (h : m.BearerRecorded maxNumOfFlow b) (htft : m'.tft b = m.tft b)
    (hlist : (m'.ctx.bearers.mem b).pfList = (m.ctx.bearers.mem b).pfList)
    (hfilters : ∀ pf ∈ (m.ctx.bearers.mem b).pfList, m'.ctx.pfs.mem pf = m.ctx.pfs.mem pf ∧
      m'.precedence pf = m.precedence pf) : m'.BearerRecorded maxNumOfFlow b := by
  constructor
  · rw [hlist, htft]
    intro hne
    rw [h.sent hne, PgwContext.encodeTrafficFlowTemplate, PgwContext.encodeTrafficFlowTemplate,
      hlist]
    apply List.mapIdx_eq_mapIdx_iff.mpr
    intro i hi
    rw [(hfilters _ (List.getElem_mem hi)).1]
  · rw [hlist]
    exact h.length
  · rw [hlist]
    intro pf hpf pf' hpf'
    rw [(hfilters pf hpf).2, (hfilters pf' hpf').2]
    exact h.precedence pf hpf pf' hpf'

/-- A bearer of which all filters were added by a rule, and sent. -/
theorem bearerRecorded_of_added {pfs : List PgwPfId} {precedence : UInt32}
    (hsent : m'.tft bearer = m'.ctx.encodeTrafficFlowTemplate bearer)
    (hlist : (m'.ctx.bearers.mem bearer).pfList = pfs) (hlength : pfs.length ≤ maxNumOfFlow)
    (hprecedence : ∀ pf ∈ pfs, m'.precedence pf = precedence) :
    m'.BearerRecorded maxNumOfFlow bearer := by
  constructor
  · exact fun _ => hsent
  · rw [hlist]
    exact hlength
  · rw [hlist]
    intro pf hpf pf' hpf'
    rw [hprecedence pf hpf, hprecedence pf' hpf']

end PgwMonitor

namespace PgwContext
variable {compile : CString → Option PgwRule} {s t : PgwContext} {bearer b : PgwBearerId}
  {flows : List (Flow × PgwPfId)}

/-- The filters of the other bearers stay what they are. -/
theorem Links.filter_kept [Ogslib] (h : s.Links) (hadds : AddsFilters compile s bearer flows t)
    (hlive : s.bearers.live b = true) : ∀ pf ∈ (s.bearers.mem b).pfList,
      pf ∉ flows.map Prod.snd ∧ t.pfs.mem pf = s.pfs.mem pf := by
  intro pf hpf
  have hnew : pf ∉ flows.map Prod.snd := by
    intro hin
    have hused := ((h.filters.mem_iff b hlive pf).mp hpf).1
    rw [hadds.free pf hin] at hused
    cases hused
  exact ⟨hnew, hadds.filter pf hnew⟩

theorem AddsFilters.pfList_nil [Ogslib] (h : AddsFilters compile s bearer [] t) (b : PgwBearerId) :
    (t.bearers.mem b).pfList = (s.bearers.mem b).pfList := by
  by_cases hb : b = bearer
  · simp [hb, h.record]
  · rw [h.other b hb]

end PgwContext

namespace PgwMonitor
variable {cfg : PgwConfig} {compile : CString → Option PgwRule} {maxNumOfFlow : Nat}
  {m m' : PgwMonitor} {sess : PgwSessId} {bearer b : PgwBearerId}

/-- The filters of a bearer that is left are the same. -/
theorem Recorded.of_kept (h : m.Recorded maxNumOfFlow) (htft : m'.tft = m.tft)
    (hprecedence : m'.precedence = m.precedence) (hlive : m.ctx.bearers.live b = true)
    (hlist : (m'.ctx.bearers.mem b).pfList = (m.ctx.bearers.mem b).pfList)
    (hfilters : m'.ctx.pfs.mem = m.ctx.pfs.mem) : m'.BearerRecorded maxNumOfFlow b := by
  apply (h.bearers b hlive).congr _ hlist
  · intro pf _
    rw [hfilters, hprecedence]
    exact ⟨rfl, rfl⟩
  · rw [htft]

/-- Some flows of a rule were added, to a bearer without filters unless there are none, and they
were sent. -/
theorem Recorded.addsFilters [Ogslib] (h : m.Recorded maxNumOfFlow) {s : PgwContext} (hs : s.Links)
    {flows : List (Flow × PgwPfId)} (precedence : UInt32)
    (hbase : ∀ b, b ≠ bearer → s.bearers.live b = true → m.ctx.bearers.live b = true ∧
      (s.bearers.mem b).pfList = (m.ctx.bearers.mem b).pfList)
    (hpfs : s.pfs.mem = m.ctx.pfs.mem)
    (hadds : PgwContext.AddsFilters compile s bearer flows m'.ctx)
    (hnil : (s.bearers.mem bearer).pfList = []) (hlength : flows.length ≤ maxNumOfFlow)
    (hsent : m'.tft = Function.update m.tft bearer (m'.ctx.encodeTrafficFlowTemplate bearer))
    (hprecedence : m'.precedence =
      fun pf => if pf ∈ flows.map Prod.snd then precedence else m.precedence pf)
    (hlive : m'.ctx.bearers.live b = true) : m'.BearerRecorded maxNumOfFlow b := by
  rw [hadds.live] at hlive
  by_cases hb : b = bearer
  · subst hb
    have hlist : (m'.ctx.bearers.mem b).pfList = flows.map Prod.snd := by
      rw [hadds.record, hnil, List.nil_append]
    have hnew : ∀ pf ∈ flows.map Prod.snd, m'.precedence pf = precedence := by
      intro pf hpf
      rw [hprecedence]
      simp only [if_pos hpf]
    apply bearerRecorded_of_added _ hlist _ hnew
    · rw [hsent, Function.update_self]
    · rw [List.length_map]
      exact hlength
  · obtain ⟨hold, hlist⟩ := hbase b hb hlive
    have hkept := hs.filter_kept hadds hlive
    rw [hlist, hpfs] at hkept
    apply (h.bearers b hold).congr
    · rw [hsent, Function.update_of_ne hb]
    · rw [hadds.other b hb, hlist]
    · intro pf hpf
      obtain ⟨hnew, hmem⟩ := hkept pf hpf
      refine ⟨hmem, ?_⟩
      rw [hprecedence]
      simp only [if_neg hnew]

theorem length_zip_le {rule : PccRule maxNumOfFlow} {pfs : List PgwPfId} :
    (rule.flow.zip pfs).length ≤ maxNumOfFlow := by
  rw [List.length_zip]
  exact le_trans (min_le_left _ _) rule.flow_le

theorem Recorded.step [Ogslib] {a : PgwContext.Op maxNumOfFlow × List PgwOutput}
    (h : m.Recorded maxNumOfFlow) (hstep : Step cfg compile m a m') :
    m'.Recorded maxNumOfFlow := by
  obtain ⟨op, out⟩ := a
  obtain ⟨t, tft, precedence⟩ := m'
  obtain ⟨hctx, htft, hprecedence⟩ := hstep
  refine ⟨h.tree.step hctx, ?_⟩
  intro b hb
  dsimp only at htft hprecedence hctx hb
  cases PgwContext.effect_of_step hctx with
  | @createSessionRequest _ bearer _ _ _ _ _ _ _ _ _ hcreates =>
    by_cases hbb : b = bearer
    · apply bearerRecorded_of_nil
      simp [hcreates.bearers, hbb, PgwBearerRecord.add]
    · apply h.of_kept htft hprecedence (((hcreates.live_bearer b).mp hb).resolve_left hbb)
      · simp [hcreates.bearers, hbb]
      · rw [hcreates.pfs]
  | @createBearer _ rule bearer _ _ _ _ hsess hname htype _ hcreates =>
    obtain ⟨linkedBearer, -, hout⟩ := hcreates.out
    have hpfs := PgwContext.map_snd_zip_of_length hcreates.flows.2
    apply h.addsFilters (hcreates.links h.tree.toLinks hsess) rule.precedence _ rfl
      hcreates.filters _ length_zip_le _ _ hb
    · intro b hb hlive
      simpa [PgwContext.setBearer, PgwContext.bearerAdded, hb] using hlive
    · simp [PgwContext.setBearer, PgwContext.bearerAdded, PgwBearerRecord.add]
    · simp [htft, hout, PgwOutput.record]
    · simp [hprecedence, PgwContext.Op.record, hname, htype, hpfs]
  | @updateBearer _ rule _ _ pfs _ _ _ hsess hname htype hfind hupdates =>
    have hlive := h.tree.live_of_mem hsess (PgwContext.mem_of_findByQciArp hfind)
    have heq := PgwContext.rebound_eq h.tree.toLinks hlive rule
    have hpfs := PgwContext.map_snd_zip_of_length hupdates.flows
    by_cases hnone : rule.flow = []
    · -- only the QoS of the bearer changes
      have hupdated := hupdates.filters
      have hempty : rule.flow.zip pfs = [] := by rw [hnone, List.zip_nil_left]
      rw [hempty] at hupdated hpfs
      have hkept := hupdated.pfList_nil b
      apply h.of_kept
      · simp only [htft, hupdates.out, hnone, if_true, true_and]
        split <;> rfl
      · simp [hprecedence, PgwContext.Op.record, hname, htype, ← hpfs]
      · rw [hupdated.live, heq] at hb
        exact hb
      · rw [hkept, heq, Pool.mem_modify]
        split <;> simp [*]
      · funext pf
        rw [hupdated.filter pf List.not_mem_nil, heq]
        simp [hnone]
    · apply h.addsFilters (h.tree.toLinks.rebound hlive rule).1 rule.precedence _ _
        hupdates.filters _ length_zip_le _ _ hb
      · intro b hb hlive
        rw [heq] at hlive ⊢
        simpa [hb] using hlive
      · simp [heq, hnone]
      · simp [heq, hnone]
      · simp [htft, hupdates.out, PgwOutput.record, hnone]
      · simp [hprecedence, PgwContext.Op.record, hname, htype, hpfs]
  | deleteBearerResponse hsess hfind =>
    have hlive := h.tree.live_of_mem hsess (List.mem_of_find?_eq_some hfind)
    have hremoves := h.tree.toLinks.removes hlive
    obtain ⟨hne, hold⟩ := (hremoves.live b).mp hb
    apply h.of_kept htft hprecedence hold
    · rw [hremoves.record b hne]
    · exact hremoves.filters
  | sessRemove hsess =>
    have hremoves := (h.tree.sessRemove hsess).2
    apply h.of_kept htft hprecedence ((hremoves.bearers b).mp hb).1
    · rw [hremoves.record b hb]
    · exact hremoves.filters
  | sendCcr => exact h.of_kept htft hprecedence hb rfl rfl
  | createBearerResponse =>
    apply h.of_kept htft hprecedence hb
    · simp only [PgwContext.setBearer, Pool.mem_modify]
      split <;> simp [*]
    · rfl
  | noRule _ hname =>
    apply h.of_kept htft
    · simp [hprecedence, PgwContext.Op.record, hname]
    · exact hb
    · rfl
    · rfl
  | removeRule _ _ htype =>
    apply h.of_kept htft
    · simp [hprecedence, PgwContext.Op.record, htype, pccRuleTypeRemove, pccRuleTypeInstall]
    · exact hb
    · rfl
    · rfl
  | noBearerResponse => exact h.of_kept htft hprecedence hb rfl rfl
  | noDeleteResponse => exact h.of_kept htft hprecedence hb rfl rfl

end PgwMonitor

/-! ## Bearers with filters -/

namespace PgwContext
variable {cfg : PgwConfig} {compile : CString → Option PgwRule} {maxNumOfFlow : Nat}
  {s t : PgwContext} {sess : PgwSessId} {bearer : PgwBearerId} {flows : List (Flow × PgwPfId)}

/-- A bearer in use that has filters. -/
def Filtered (s : PgwContext) (sess : PgwSessId) (b : PgwBearerId) : Prop :=
  s.bearers.live b = true ∧ (s.bearers.mem b).sess = sess ∧ (s.bearers.mem b).pfList ≠ []

theorem Tree.oneFiltered_iff (h : s.Tree) :
    PgwMonitor.OneFiltered s ↔ ∀ sess b b', s.Filtered sess b → s.Filtered sess b' → b = b' := by
  constructor
  · intro hone sess b b' hb hb'
    have hsess : s.sess.live sess = true := by
      rw [← hb.2.1]
      exact h.bearers.live b hb.1
    have hmem := h.bearers.mem_iff sess hsess
    exact hone sess hsess b ((hmem b).mpr ⟨hb.1, hb.2.1⟩) b' ((hmem b').mpr ⟨hb'.1, hb'.2.1⟩)
      hb.2.2 hb'.2.2
  · intro hone sess hsess b hb b' hb' hne hne'
    have hmem := h.bearers.mem_iff sess hsess
    obtain ⟨hlive, hown⟩ := (hmem b).mp hb
    obtain ⟨hlive', hown'⟩ := (hmem b').mp hb'
    exact hone sess b b' ⟨hlive, hown, hne⟩ ⟨hlive', hown', hne'⟩

/-- No bearer gets its first filters. -/
theorem Tree.oneFiltered_of (h : s.Tree) (ht : t.Tree) (hone : PgwMonitor.OneFiltered s)
    (hfiltered : ∀ sess b, t.Filtered sess b → s.Filtered sess b) :
    PgwMonitor.OneFiltered t := by
  rw [h.oneFiltered_iff] at hone
  rw [ht.oneFiltered_iff]
  intro sess b b' hb hb'
  exact hone sess b b' (hfiltered sess b hb) (hfiltered sess b' hb')

/-- A bearer gets filters: then no other bearer of the session may have any. -/
theorem Tree.oneFiltered_added_iff (h : s.Tree) (ht : t.Tree) (hone : PgwMonitor.OneFiltered s)
    (hbearer : t.Filtered sess bearer)
    (hother : ∀ sess b, b ≠ bearer → (t.Filtered sess b ↔ s.Filtered sess b)) :
    PgwMonitor.OneFiltered t ↔ ∀ b, s.Filtered sess b → b = bearer := by
  rw [h.oneFiltered_iff] at hone
  rw [ht.oneFiltered_iff]
  constructor
  · intro hone' b hb
    by_contra hne
    exact hne (hone' sess b bearer ((hother sess b hne).mpr hb) hbearer)
  · intro honly σ b b' hb hb'
    -- another bearer with filters belongs to another session
    have hsame : ∀ b, t.Filtered sess b → b = bearer := by
      intro b hb
      by_contra hne
      exact hne (honly b ((hother sess b hne).mp hb))
    by_cases hσ : σ = sess
    · subst hσ
      rw [hsame b hb, hsame b' hb']
    · have hne : ∀ b, t.Filtered σ b → b ≠ bearer := by
        rintro b hb rfl
        exact hσ (hb.2.1.symm.trans hbearer.2.1)
      exact hone σ b b' ((hother σ b (hne b hb)).mp hb) ((hother σ b' (hne b' hb')).mp hb')

theorem Tree.filtered_iff (h : s.Tree) (hsess : s.sess.live sess = true) (b : PgwBearerId) :
    s.Filtered sess b ↔
      b ∈ (s.sessMem sess).bearerList ∧ (s.bearers.mem b).pfList ≠ [] := by
  rw [h.bearers.mem_iff sess hsess, and_assoc]
  rfl

theorem zip_ne_nil {flows : List Flow} {pfs : List PgwPfId} (hne : flows ≠ [])
    (h : flows.length = pfs.length) : flows.zip pfs ≠ [] := by
  rw [ne_eq, List.zip_eq_nil_iff, not_or]
  refine ⟨hne, ?_⟩
  rintro rfl
  exact hne (List.length_eq_zero_iff.mp h)

theorem AddsFilters.filtered [Ogslib] (h : AddsFilters compile s bearer flows t) (hne : flows ≠ [])
    (hlive : s.bearers.live bearer = true) : t.Filtered (s.bearers.mem bearer).sess bearer := by
  rw [Filtered, h.live, h.record]
  refine ⟨hlive, rfl, ?_⟩
  simp [hne]

theorem AddsFilters.filtered_iff [Ogslib] (h : AddsFilters compile s bearer flows t)
    {b : PgwBearerId} (hb : b ≠ bearer) : t.Filtered sess b ↔ s.Filtered sess b := by
  rw [Filtered, h.live, h.other b hb]
  rfl

theorem SameShape.filtered_iff (h : s.SameShape t) (b : PgwBearerId) :
    t.Filtered sess b ↔ s.Filtered sess b := by
  rw [Filtered, h.bearers, (h.bearer b).1, (h.bearer b).2]
  rfl

section
variable [Ogslib] {rule : PccRule maxNumOfFlow} {pfs : List PgwPfId} {name : CString}
  {out : List PgwOutput}

/-- A new bearer has filters, and had none before. -/
theorem CreatesBearer.filtered (h : CreatesBearer compile s sess name rule bearer pfs t out) :
    t.Filtered sess bearer ∧ ¬s.Filtered sess bearer := by
  constructor
  · have hne := zip_ne_nil h.flows.1 h.flows.2
    convert h.filters.filtered hne _ using 1
    · simp [setBearer, bearerAdded, PgwBearerRecord.add]
    · simp [setBearer, bearerAdded]
  · rintro ⟨hlive, -⟩
    rw [h.slot.2] at hlive
    cases hlive

theorem CreatesBearer.filtered_iff (h : CreatesBearer compile s sess name rule bearer pfs t out)
    (σ : PgwSessId) {b : PgwBearerId} (hb : b ≠ bearer) :
    t.Filtered σ b ↔ s.Filtered σ b := by
  rw [h.filters.filtered_iff hb]
  simp [Filtered, setBearer, bearerAdded, hb]

theorem UpdatesBearer.filtered_iff (h : UpdatesBearer compile s name rule bearer pfs t out)
    (htree : s.Tree) (hlive : s.bearers.live bearer = true) (σ : PgwSessId) {b : PgwBearerId}
    (hb : b ≠ bearer) : t.Filtered σ b ↔ s.Filtered σ b := by
  rw [h.filters.filtered_iff hb, rebound_eq htree.toLinks hlive rule]
  simp [Filtered, hb]

/-- A rule without flows adds no filter. -/
theorem UpdatesBearer.filtered_of (h : UpdatesBearer compile s name rule bearer pfs t out)
    (htree : s.Tree) (hlive : s.bearers.live bearer = true) (hnone : rule.flow = [])
    (σ : PgwSessId) (b : PgwBearerId) (hb : t.Filtered σ b) : s.Filtered σ b := by
  have hempty : rule.flow.zip pfs = [] := by rw [hnone, List.zip_nil_left]
  have hupdated := h.filters
  rw [hempty] at hupdated
  rw [Filtered, hupdated.live, hupdated.owner, hupdated.pfList_nil,
    rebound_eq htree.toLinks hlive rule] at hb
  simp only [hnone, if_true, Pool.live_modify, Pool.mem_modify] at hb
  split at hb
  · rename_i hbb
    rwa [← hbb] at hb
  · exact hb

theorem UpdatesBearer.filtered (h : UpdatesBearer compile s name rule bearer pfs t out)
    (htree : s.Tree) (hlive : s.bearers.live bearer = true)
    (hown : (s.bearers.mem bearer).sess = sess) (hflow : rule.flow ≠ []) :
    t.Filtered sess bearer := by
  have heq := rebound_eq htree.toLinks hlive rule
  convert h.filters.filtered (zip_ne_nil hflow h.flows) _ using 1
  · simp [heq, hown]
  · simpa [heq] using hlive

end

end PgwContext

namespace PgwMonitor
variable {cfg : PgwConfig} {compile : CString → Option PgwRule} {maxNumOfFlow : Nat}
  {m m' : PgwMonitor}

/-- At most one bearer of a session has filters after a step if and only if a rule with flows was
for it. -/
theorem Recorded.oneFiltered_iff [Ogslib] {a : PgwContext.Op maxNumOfFlow × List PgwOutput}
    (h : m.Recorded maxNumOfFlow) (hone : OneFiltered m.ctx) (hstep : Step cfg compile m a m') :
    OneFiltered m'.ctx ↔ m.SameBearer a := by
  have ht := h.tree.step hstep.ctx
  obtain ⟨op, out⟩ := a
  obtain ⟨t, tft, precedence⟩ := m'
  have hctx := hstep.ctx
  dsimp only at hctx ht ⊢
  cases PgwContext.effect_of_step hctx with
  | @createSessionRequest sess bearer _ _ _ _ _ _ _ _ _ hcreates =>
    apply iff_of_true _ trivial
    apply h.tree.oneFiltered_of ht hone
    intro σ b hb
    have hne : b ≠ bearer := by
      rintro rfl
      refine hb.2.2 ?_
      simp [hcreates.bearers, PgwBearerRecord.add]
    simpa [PgwContext.Filtered, hcreates.bearers, hne] using hb
  | sendCcr =>
    apply iff_of_true _ trivial
    apply h.tree.oneFiltered_of ht hone
    intro σ b
    apply (PgwContext.SameShape.filtered_iff _ b).mp
    exact PgwContext.sameShape_setSess fun _ => rfl
  | @createBearer sess rule bearer pfs _ _ _ hsess hname htype hfind hcreates =>
    obtain ⟨hbearer, hnew⟩ := hcreates.filtered
    rw [h.tree.oneFiltered_added_iff ht hone hbearer fun σ _ hb => hcreates.filtered_iff σ hb]
    simp only [SameBearer, hname, htype, hfind, Option.isSome_some, forall_const,
      h.tree.filtered_iff hsess] at hnew ⊢
    constructor
    · intro honly _ b hb hne
      obtain rfl := honly b ⟨hb, hne⟩
      exact absurd ⟨hb, hne⟩ hnew
    · rintro hsame b ⟨hb, hne⟩
      exact absurd (hsame hcreates.flows.1 b hb hne) (by simp)
  | @updateBearer sess rule _ bearer pfs _ _ _ hsess hname htype hfind hupdates =>
    have hmem := PgwContext.mem_of_findByQciArp hfind
    have hlive := h.tree.live_of_mem hsess hmem
    have hown := ((h.tree.bearers.mem_iff sess hsess bearer).mp hmem).2
    by_cases hnone : rule.flow = []
    · apply iff_of_true _ fun _ _ hne => absurd hnone hne
      exact h.tree.oneFiltered_of ht hone (hupdates.filtered_of h.tree hlive hnone)
    · have hbearer := hupdates.filtered h.tree hlive hown hnone
      rw [h.tree.oneFiltered_added_iff ht hone hbearer fun σ _ hb =>
        hupdates.filtered_iff h.tree hlive σ hb]
      simp only [SameBearer, hname, htype, hfind, Option.isSome_some, forall_const,
        h.tree.filtered_iff hsess, Option.some_inj, and_imp, hnone, ne_eq, not_false_eq_true]
      exact forall₂_congr fun b _ => imp_congr_right fun _ => eq_comm
  | deleteBearerResponse hsess hfind =>
    apply iff_of_true _ trivial
    apply h.tree.oneFiltered_of ht hone
    intro σ b hb
    have hlive := h.tree.live_of_mem hsess (List.mem_of_find?_eq_some hfind)
    have hremoves := h.tree.toLinks.removes hlive
    obtain ⟨hne, hold⟩ := (hremoves.live b).mp hb.1
    rw [PgwContext.Filtered, hremoves.record b hne] at hb
    exact ⟨hold, hb.2⟩
  | sessRemove hsess =>
    apply iff_of_true _ trivial
    apply h.tree.oneFiltered_of ht hone
    intro σ b hb
    have hremoves := (h.tree.sessRemove hsess).2
    rw [PgwContext.Filtered, hremoves.record b hb.1] at hb
    exact ⟨((hremoves.bearers b).mp hb.1).1, hb.2⟩
  | createBearerResponse =>
    apply iff_of_true _ trivial
    apply h.tree.oneFiltered_of ht hone
    intro σ b
    apply (PgwContext.SameShape.filtered_iff _ b).mp
    exact PgwContext.sameShape_setBearer fun _ => ⟨rfl, rfl⟩
  | noRule _ hname => exact iff_of_true hone fun hsome => by simp [hname] at hsome
  | removeRule _ _ htype =>
    apply iff_of_true hone
    intro _ hinstall
    rw [htype] at hinstall
    cases hinstall
  | noBearerResponse => exact iff_of_true hone trivial
  | noDeleteResponse => exact iff_of_true hone trivial

/-! ## Runs -/

theorem recorded_initial (arrays : List (List PgwUeIp)) :
    (initial arrays).Recorded maxNumOfFlow := by
  refine ⟨PgwContext.tree_initial arrays, ?_⟩
  intro b hb
  cases hb

theorem oneFiltered_initial (arrays : List (List PgwUeIp)) :
    OneFiltered (initial arrays).ctx := by
  intro sess hsess
  cases hsess

/-- In a run the filters of every session are sent in the order of their rules, and the bearer for a
packet is the one whose matching filter comes first, if and only if every rule with flows is for
the only bearer of its session that has filters. -/
theorem ordered_run [Ogslib] (cfg : PgwConfig) (compile : CString → Option PgwRule)
    (maxNumOfFlow : Nat) (hmax : maxNumOfFlow ≤ maxNumOfPacketFilter) (arrays : List (List PgwUeIp))
    (tr : List ((PgwContext.Op maxNumOfFlow × List PgwOutput) × PgwMonitor))
    (htrace : Lts.Trace (Step cfg compile) (initial arrays) tr) :
    (∀ p ∈ tr, p.2.Ordered) ↔
      Lts.Trace (Lts.Restrict SameBearer (Step cfg compile)) (initial arrays) tr := by
  have hrecorded : ∀ p ∈ tr, p.2.Recorded maxNumOfFlow := by
    apply htrace.invariant (I := Recorded maxNumOfFlow)
    · exact fun m a m' h hstep => h.step hstep
    · exact recorded_initial arrays
  have hiff : (∀ p ∈ tr, p.2.Ordered) ↔ ∀ p ∈ tr, OneFiltered p.2.ctx :=
    forall₂_congr fun p hp => (hrecorded p hp).ordered_iff hmax
  rw [hiff]
  apply htrace.invariant_iff (J := Recorded maxNumOfFlow) (I := fun m => OneFiltered m.ctx)
  · exact fun m a m' h hstep => h.step hstep
  · exact fun m a m' h hone hstep => h.oneFiltered_iff hone hstep
  · exact recorded_initial arrays
  · exact oneFiltered_initial arrays

/-- What an event does, if it does not end the program. -/
def apply [Ogslib] (cfg : PgwConfig) (compile : CString → Option PgwRule) (m : PgwMonitor)
    (op : PgwContext.Op maxNumOfFlow) : Option (PgwMonitor × List PgwOutput) :=
  (m.ctx.apply cfg compile op).map fun (t, out) =>
    (⟨t, out.foldl PgwOutput.record m.tft, op.record m.precedence⟩, out)

/-- The run of some events, up to the first that ends the program. -/
def trace [Ogslib] (cfg : PgwConfig) (compile : CString → Option PgwRule) (m : PgwMonitor) :
    List (PgwContext.Op maxNumOfFlow) →
      List ((PgwContext.Op maxNumOfFlow × List PgwOutput) × PgwMonitor)
  | [] => []
  | op :: ops =>
    match m.apply cfg compile op with
    | none => []
    | some (m', out) => ((op, out), m') :: trace cfg compile m' ops

theorem step_of_apply [Ogslib] {op : PgwContext.Op maxNumOfFlow} {out : List PgwOutput}
    (h : m.apply cfg compile op = some (m', out)) : Step cfg compile m (op, out) m' := by
  obtain ⟨⟨t, out'⟩, happly, heq⟩ := Option.map_eq_some_iff.mp h
  cases heq
  exact ⟨happly, rfl, rfl⟩

/-- A run in which all events meet a condition. -/
theorem trace_cons [Ogslib] {C : PgwMonitor → PgwContext.Op maxNumOfFlow × List PgwOutput → Prop}
    {op : PgwContext.Op maxNumOfFlow} {ops : List (PgwContext.Op maxNumOfFlow)}
    (hcond : ∀ out, C m (op, out))
    (hrest : ∀ m' out, m.apply cfg compile op = some (m', out) →
      Lts.Trace (Lts.Restrict C (Step cfg compile)) m' (m'.trace cfg compile ops)) :
    Lts.Trace (Lts.Restrict C (Step cfg compile)) m (m.trace cfg compile (op :: ops)) := by
  rw [trace]
  split
  · exact Lts.Trace.nil m
  · rename_i m' out happly
    exact Lts.Trace.cons ⟨hcond out, step_of_apply happly⟩ (hrest m' out happly)

theorem trace_trace [Ogslib] (ops : List (PgwContext.Op maxNumOfFlow)) :
    Lts.Trace (Step cfg compile) m (m.trace cfg compile ops) := by
  induction ops generalizing m with
  | nil => exact Lts.Trace.nil m
  | cons op ops ih =>
    rw [trace]
    split
    · exact Lts.Trace.nil m
    · rename_i happly
      exact Lts.Trace.cons (step_of_apply happly) ih

/-- A run of events does not depend on how many flows a rule could have. -/
theorem trace_widen [Ogslib] {k n : Nat} (h : k ≤ n) (m : PgwMonitor)
    (ops : List (PgwContext.Op k)) :
    (m.trace cfg compile (ops.map (PgwContext.Op.widen h))).map Prod.snd =
      (m.trace cfg compile ops).map Prod.snd := by
  induction ops generalizing m with
  | nil => rfl
  | cons op ops ih =>
    have happly : m.apply cfg compile (op.widen h) = m.apply cfg compile op := by
      cases op <;> rfl
    rw [List.map_cons, trace, trace, happly]
    cases m.apply cfg compile op with
    | none => rfl
    | some r =>
      rw [List.map_cons, List.map_cons]
      exact congrArg (r.1 :: ·) (ih r.1)

/-! ### Sessions with rules -/

attribute [local instance] Ogslib.reference

/-- A session that gets rules. -/
def withRules (rules : List (PgwContext.Op maxNumOfFlow)) :
    List ((PgwContext.Op maxNumOfFlow × List PgwOutput) × PgwMonitor) :=
  (initial PgwContext.coincidingArrays).trace PgwContext.coincidingSubnets
    (fun _ => some PgwContext.anyPacket)
    (.createSessionRequest 1 1 [] [] Pgw.pdnTypeIpv4 5 0 0 7 none :: rules)

/-- A rule with two flows. -/
def twoFlows : PccRule 8 :=
  { PgwContext.anyPacketRule with
    flow := [⟨1, some ⟨[0x75], by decide⟩⟩, ⟨2, some ⟨[0x76], by decide⟩⟩]
    flow_le := by decide }

def oneRule : List ((PgwContext.Op 8 × List PgwOutput) × PgwMonitor) :=
  withRules [.pccRule 1 twoFlows 2 [0, 1]]

theorem oneRule_ne_nil : oneRule ≠ [] := List.ne_nil_of_length_pos (by decide)

def oneBearer : PgwMonitor := (oneRule.getLast oneRule_ne_nil).2

/-- With one rule all is in order. It has two filters. -/
theorem ordered_run_one : oneBearer.Ordered ∧ oneBearer.IsFilter 1 2 0 0 ∧
    oneBearer.IsFilter 1 2 1 1 := by
  refine ⟨?_, ⟨by decide, by decide, by decide⟩, ⟨by decide, by decide, by decide⟩⟩
  apply (ordered_run _ _ _ (by decide) _ oneRule (trace_trace _)).mpr _ _
    (List.getLast_mem oneRule_ne_nil)
  rw [oneRule, withRules]
  apply trace_cons fun _ => trivial
  intro m out hm
  apply trace_cons
  · -- the default bearer has no filters
    have hview := congrArg (Option.map fun r : PgwMonitor × List PgwOutput =>
      ((r.1.ctx.sessMem 1).bearerList, (r.1.ctx.bearers.mem 1).pfList)) hm
    have heval : _ = some ([1], []) := hview.symm.trans (by decide)
    obtain ⟨hlist, hnil⟩ := Prod.mk.inj (Option.some_inj.mp heval)
    intro _ _ _ _ b hb hne
    rw [hlist, List.mem_singleton] at hb
    rw [hb] at hne
    exact absurd hnil hne
  · exact fun m' _ _ => Lts.Trace.nil m'

/-- A rule for a QCI. -/
def ruleOf (qci : UInt8) (precedence : UInt32) : PccRule 1 :=
  { PgwContext.anyPacketRule with
    precedence := precedence, qos := ⟨qci, ⟨1, 0, 0⟩, ⟨0, 0⟩, ⟨0, 0⟩⟩ }

/-- A rule with the QCI 1, and then one with the QCI 2 that comes before it. -/
def twoRules : List (PgwContext.Op 1) :=
  [.pccRule 1 (ruleOf 1 20) 2 [0], .pccRule 1 (ruleOf 2 10) 3 [1]]

theorem withRules_ne_nil : withRules twoRules ≠ [] := List.ne_nil_of_length_pos (by decide)

def twoBearers : PgwMonitor := ((withRules twoRules).getLast withRules_ne_nil).2

/-- Both filters are sent with the precedence 1. -/
theorem ordered_run_two : ¬∃ n, ∀ (cfg : PgwConfig) (compile : CString → Option PgwRule)
    (arrays : List (List PgwUeIp)), pgwUePoolGenerate cfg = .ok arrays →
      ∀ tr : List ((PgwContext.Op (n + 1) × List PgwOutput) × PgwMonitor),
        Lts.Trace (Step cfg compile) (initial arrays) tr → ∀ p ∈ tr, p.2.Ordered := by
  rintro ⟨n, hclaim⟩
  have hsame : (withRules (twoRules.map (PgwContext.Op.widen (Nat.le_add_left 1 n)))).map Prod.snd =
      (withRules twoRules).map Prod.snd :=
    trace_widen _ _ (.createSessionRequest 1 1 [] [] Pgw.pdnTypeIpv4 5 0 0 7 none :: twoRules)
  have hmem : twoBearers ∈ (withRules twoRules).map Prod.snd :=
    List.mem_map_of_mem (List.getLast_mem withRules_ne_nil)
  rw [← hsame] at hmem
  obtain ⟨p, hp, heq⟩ := List.mem_map.mp hmem
  have hordered : twoBearers.Ordered := by
    rw [← heq]
    exact hclaim _ _ _ PgwContext.pgwUePoolGenerate_coinciding _ (trace_trace _) p hp
  have hfirst : twoBearers.IsFilter 1 2 0 0 := ⟨by decide, by decide, by decide⟩
  have hsecond : twoBearers.IsFilter 1 3 0 1 := ⟨by decide, by decide, by decide⟩
  have hsame := hordered.distinct _ _ _ _ _ _ _ hfirst hsecond (by decide)
  exact absurd hsame.1 (by decide)

end PgwMonitor
end NextEpc

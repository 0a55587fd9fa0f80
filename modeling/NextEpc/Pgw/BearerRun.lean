import NextEpc.Pgw.BearerTree

/-!
# What an event does to sessions and bearers

Each handler is inverted once: what must hold for it to get through, and what the records are
then. From this, every event keeps the tree.
-/

namespace NextEpc

/-! ## Records after an event -/

/-- A session with its default bearer, once its request was handled. -/
def PgwSessRecord.created (m : PgwSessRecord) (bearer : PgwBearerId) (gnode : NodeId) :
    Option PgwSessionRequest → PgwSessRecord
  | none => { m with bearerList := [bearer], gnode := some gnode }
  | some req => { m with
      bearerList := [bearer], gnode := some gnode, imsi := req.imsi, sgwS5cTeid := req.sgwS5cTeid
      qci := req.qci, arp := req.arp, ambr := req.ambr.getD m.ambr, tai := req.tai
      eCgi := req.eCgi }

/-- Its default bearer. -/
def PgwBearerRecord.created (m : PgwBearerRecord) (ebi : UInt8) :
    Option PgwSessionRequest → PgwBearerRecord
  | none => { m with ebi := ebi }
  | some req => { m with ebi := ebi, sgwS5uTeid := req.sgwS5uTeid, gnode := some req.gnode }

@[simp] theorem PgwSessRecord.created_bearerList {m : PgwSessRecord} {bearer : PgwBearerId}
    {gnode : NodeId} {req : Option PgwSessionRequest} :
    (m.created bearer gnode req).bearerList = [bearer] := by
  cases req <;> rfl

section
variable {m : PgwBearerRecord} {ebi : UInt8} {req : Option PgwSessionRequest}

@[simp] theorem PgwBearerRecord.created_ebi : (m.created ebi req).ebi = ebi := by
  cases req <;> rfl

@[simp] theorem PgwBearerRecord.created_sess : (m.created ebi req).sess = m.sess := by
  cases req <;> rfl

@[simp] theorem PgwBearerRecord.created_pfList : (m.created ebi req).pfList = m.pfList := by
  cases req <;> rfl

end

namespace PgwContext
variable {cfg : PgwConfig} {compile : CString → Option PgwRule} {maxNumOfFlow : Nat}
  {s t u : PgwContext} {sess : PgwSessId} {bearer : PgwBearerId} {pf : PgwPfId}
  {pfs : List PgwPfId} {imsi apn : Bytes} {pdnType ebi : UInt8} {index4 index6 : Nat}
  {gnode : NodeId} {req : Option PgwSessionRequest} {name : CString}
  {rule : PccRule maxNumOfFlow} {out : List PgwOutput}

/-! ## Sessions -/

structure CreatesSess (cfg : PgwConfig) (s : PgwContext) (sess : PgwSessId)
    (bearer : PgwBearerId) (imsi apn : Bytes) (pdnType ebi : UInt8) (index4 index6 : Nat)
    (gnode : NodeId) (req : Option PgwSessionRequest) (t : PgwContext) : Prop where
  slot : IsPoolIndex sess ∧ s.sess.live sess = false
  bearerSlot : IsPoolIndex bearer ∧ s.bearers.live bearer = false
  toPgw : s.toPgw.pgwSessAdd cfg sess apn pdnType index4 index6 = .ok t.toPgw
  sessMem : t.sessMem = Function.update s.sessMem sess
    (((s.sessMem sess).add (UInt32.ofNat sess) imsi).created bearer gnode req)
  bearers : t.bearers = (s.bearers.alloc bearer).modify bearer fun m =>
    (m.add (UInt32.ofNat bearer) sess).created ebi req
  pfs : t.pfs = s.pfs
  sessList : t.sessList = s.sessList ++ [sess]

theorem createsSess_of_createSession (h : s.createSession cfg sess bearer imsi apn pdnType ebi
    index4 index6 gnode req = some t) :
    CreatesSess cfg s sess bearer imsi apn pdnType ebi index4 index6 gnode req t := by
  obtain ⟨added, hadded, h⟩ := Option.bind_eq_some_iff.mp h
  rw [pgwSessAdd, Option.ite_none_right_eq_some] at hadded
  obtain ⟨hslot, hadded⟩ := hadded
  obtain ⟨withBearer, hbearer, hadded⟩ := Option.bind_eq_some_iff.mp hadded
  obtain ⟨hbearerSlot, rfl⟩ := pgwBearerAdd_eq_some.mp hbearer
  obtain ⟨pgw, hpgw, hadded⟩ := Option.bind_eq_some_iff.mp hadded
  cases hadded
  have htoPgw : s.toPgw.pgwSessAdd cfg sess apn pdnType index4 index6 = .ok pgw := by
    change (s.toPgw.pgwSessAdd cfg sess apn pdnType index4 index6).toOption = some pgw at hpgw
    cases hadd : s.toPgw.pgwSessAdd cfg sess apn pdnType index4 index6 with
    | error e =>
      rw [hadd] at hpgw
      cases hpgw
    | ok pgw' =>
      rw [hadd] at hpgw
      cases hpgw
      rfl
  cases req with
  | none =>
    cases h
    refine ⟨hslot, hbearerSlot, htoPgw, ?_, ?_, rfl, rfl⟩
    · simp [setSess, setBearer, bearerAdded, PgwSessRecord.add, PgwSessRecord.created]
    · simp only [setSess, setBearer, bearerAdded, Pool.modify_modify]
      rfl
  | some req =>
    obtain ⟨b, hb, h⟩ := Option.bind_eq_some_iff.mp h
    have hb : b = bearer := by
      simpa [pgwDefaultBearerInSess, setSess, setBearer, bearerAdded, PgwSessRecord.add]
        using hb.symm
    cases h
    subst hb
    refine ⟨hslot, hbearerSlot, htoPgw, ?_, ?_, rfl, rfl⟩
    · simp [setSess, setBearer, bearerAdded, PgwSessRecord.add, PgwSessRecord.created]
    · simp only [setSess, setBearer, bearerAdded, Pool.modify_modify]
      rfl

theorem CreatesSess.live_sess (h : CreatesSess cfg s sess bearer imsi apn pdnType ebi index4 index6
    gnode req t) (σ : PgwSessId) : t.sess.live σ = true ↔ σ = sess ∨ s.sess.live σ = true := by
  obtain ⟨new4, new6, -, hadded⟩ := Pgw.pgwSessAdd_ok h.toPgw
  exact hadded.live_sess σ

theorem CreatesSess.live_bearer (h : CreatesSess cfg s sess bearer imsi apn pdnType ebi index4
    index6 gnode req t) (b : PgwBearerId) :
    t.bearers.live b = true ↔ b = bearer ∨ s.bearers.live b = true := by
  rw [h.bearers, Pool.live_modify, Pool.live_alloc]
  split <;> simp [*]

/-- A session with its default bearer. -/
theorem Tree.createsSess (h : s.Tree) (hcreates : CreatesSess cfg s sess bearer imsi apn pdnType
    ebi index4 index6 gnode req t) : t.Tree := by
  have hfree : ¬s.sess.live sess = true := by simp [hcreates.slot.2]
  have hbearer : ¬s.bearers.live bearer = true := by simp [hcreates.bearerSlot.2]
  refine ⟨⟨?_, ?_⟩, ?_, ?_⟩
  · -- the session comes first, then its bearer
    have hadded : Family.Linked (fun σ => σ = sess ∨ s.sess.live σ = true)
        (fun b => s.bearers.live b = true) (fun b => (s.bearers.mem b).sess)
        (Function.update (fun σ => (s.sessMem σ).bearerList) sess []) := by
      apply h.bearers.addParent hfree (fun _ => Iff.rfl)
      · exact Function.update_self ..
      · exact fun σ hσ => Function.update_of_ne hσ ..
    apply hadded.addChild (p := sess) (c := bearer) (Or.inl rfl) hbearer
    · exact hcreates.live_sess
    · exact hcreates.live_bearer
    · simp [hcreates.bearers, PgwBearerRecord.add]
    · intro b hb
      simp [hcreates.bearers, hb]
    · simp [hcreates.sessMem]
    · intro σ hσ
      simp [hcreates.sessMem, hσ]
  · rw [LinkedFilters, hcreates.pfs]
    apply h.filters.addParent hbearer hcreates.live_bearer
    · simp [hcreates.bearers, PgwBearerRecord.add]
    · intro b hb
      simp [hcreates.bearers, hb]
  · rw [hcreates.sessList, List.nodup_append]
    refine ⟨h.nodup, List.nodup_singleton sess, ?_⟩
    intro σ hσ σ' hσ'
    cases List.mem_singleton.mp hσ'
    rintro rfl
    exact hfree ((h.mem_sessList _).mp hσ)
  · intro σ
    rw [hcreates.sessList, hcreates.live_sess, List.mem_append, List.mem_singleton, or_comm,
      h.mem_sessList]

/-! ## Rules -/

/-- A rule for which there is no bearer. -/
structure CreatesBearer [Ogslib] (compile : CString → Option PgwRule) (s : PgwContext)
    (sess : PgwSessId) (name : CString) (rule : PccRule maxNumOfFlow) (bearer : PgwBearerId)
    (pfs : List PgwPfId) (t : PgwContext) (out : List PgwOutput) : Prop where
  slot : IsPoolIndex bearer ∧ s.bearers.live bearer = false
  flows : rule.flow ≠ [] ∧ rule.flow.length = pfs.length
  filters : AddsFilters compile ((s.bearerAdded bearer sess).setBearer bearer fun m =>
    { m with name := some name, qos := rule.qos }) bearer (rule.flow.zip pfs) t
  out : ∃ linkedBearer, t.pgwDefaultBearerInSess sess = some linkedBearer ∧
    out = [.createBearerRequest bearer (t.bearers.mem linkedBearer).ebi
      (t.bearers.mem bearer).ebi (t.bearers.mem bearer).pgwS5uTeid (t.bearers.mem bearer).qos
      (t.encodeTrafficFlowTemplate bearer)]

theorem map_snd_zip_of_length {flows : List Flow} (h : flows.length = pfs.length) :
    (flows.zip pfs).map Prod.snd = pfs := List.map_snd_zip (le_of_eq h.symm)

theorem createsBearer_of_createBearer [Ogslib]
    (h : s.createBearer compile sess name rule bearer pfs = some (t, out)) :
    CreatesBearer compile s sess name rule bearer pfs t out := by
  rw [createBearer, Option.ite_none_left_eq_some, not_or, not_not] at h
  obtain ⟨hflows, h⟩ := h
  obtain ⟨added, hadded, h⟩ := Option.bind_eq_some_iff.mp h
  obtain ⟨hslot, rfl⟩ := pgwBearerAdd_eq_some.mp hadded
  obtain ⟨filtered, hfilters, h⟩ := Option.bind_eq_some_iff.mp h
  obtain ⟨linkedBearer, hlinked, h⟩ := Option.bind_eq_some_iff.mp h
  have hadds := addsFilters_of_addFlows hfilters
  cases h
  exact ⟨hslot, hflows, hadds, linkedBearer, hlinked, rfl⟩

/-- What `updateBearer` writes before the flows are added. -/
def rebound (s : PgwContext) (rule : PccRule maxNumOfFlow) (bearer : PgwBearerId) : PgwContext :=
  let qosPresence := qosChanged rule.qos (s.bearers.mem bearer).qos
  let s := if rule.flow = [] then s else s.pgwPfRemoveAll bearer
  if qosPresence then s.setBearer bearer fun m => { m with qos := rule.qos } else s

/-- A rule for which there is a bearer. -/
structure UpdatesBearer [Ogslib] (compile : CString → Option PgwRule) (s : PgwContext)
    (name : CString) (rule : PccRule maxNumOfFlow) (bearer : PgwBearerId) (pfs : List PgwPfId)
    (t : PgwContext) (out : List PgwOutput) : Prop where
  named : (s.bearers.mem bearer).name = some name
  flows : rule.flow.length = pfs.length
  filters : AddsFilters compile (s.rebound rule bearer) bearer (rule.flow.zip pfs) t
  out : out = if rule.flow = [] ∧ qosChanged rule.qos (s.bearers.mem bearer).qos = false then []
    else [.updateBearerRequest bearer (t.bearers.mem bearer).ebi
      (if qosChanged rule.qos (s.bearers.mem bearer).qos then some (t.bearers.mem bearer).qos
        else none)
      (if rule.flow = [] then none else some (t.encodeTrafficFlowTemplate bearer))]

theorem updatesBearer_of_updateBearer [Ogslib]
    (h : s.updateBearer compile name rule bearer pfs = some (t, out)) :
    UpdatesBearer compile s name rule bearer pfs t out := by
  rw [updateBearer, Option.ite_none_left_eq_some, not_or, not_not, not_not] at h
  obtain ⟨⟨hnamed, hflows⟩, h⟩ := h
  by_cases hnone : rule.flow = []
  · have hpfs : pfs = [] := by simpa [hnone] using hflows.symm
    subst hpfs
    by_cases hqos : qosChanged rule.qos (s.bearers.mem bearer).qos = true
    · simp [hnone, hqos, addFlows] at h
      obtain ⟨rfl, rfl⟩ := h
      refine ⟨hnamed, hflows, ?_, ?_⟩
      · simp [rebound, hnone, hqos, addsFilters_nil]
      · simp [hnone, hqos]
    · simp [hnone, hqos] at h
      obtain ⟨rfl, rfl⟩ := h
      refine ⟨hnamed, hflows, ?_, ?_⟩
      · simp [rebound, hnone, hqos, addsFilters_nil]
      · simp [hnone, hqos]
  · have hsome : ∀ q : Bool, ((!(!rule.flow.isEmpty) && !q) = true) = False := by simp [hnone]
    simp only [hsome, if_false] at h
    obtain ⟨filtered, hfilters, h⟩ := Option.bind_eq_some_iff.mp h
    have hadds := addsFilters_of_addFlows hfilters
    cases h
    refine ⟨hnamed, hflows, ?_, ?_⟩
    · simpa [rebound, hnone] using hadds
    · simp [hnone]

theorem Tree.of_links (h : s.Tree) (hlinks : t.Links) (htoPgw : t.toPgw = s.toPgw)
    (hsessList : t.sessList = s.sessList) : t.Tree := by
  refine ⟨hlinks, ?_, ?_⟩
  · rw [hsessList]
    exact h.nodup
  · rw [hsessList, htoPgw]
    exact h.mem_sessList

/-- A new bearer with the name and the QoS of a rule. -/
theorem CreatesBearer.links [Ogslib]
    (hcreates : CreatesBearer compile s sess name rule bearer pfs t out)
    (h : s.Links) (hsess : s.sess.live sess = true) :
    ((s.bearerAdded bearer sess).setBearer bearer fun m =>
      { m with name := some name, qos := rule.qos }).Links := by
  apply SameShape.links _ (h.bearerAdded hsess hcreates.slot.2)
  exact sameShape_setBearer fun _ => ⟨rfl, rfl⟩

theorem Tree.createsBearer [Ogslib] (h : s.Tree) (hsess : s.sess.live sess = true)
    (hcreates : CreatesBearer compile s sess name rule bearer pfs t out) : t.Tree := by
  have hadds := hcreates.filters
  have hlinks := hcreates.links h.toLinks hsess
  apply h.of_links (hlinks.addsFilters _ hadds) hadds.toPgw hadds.sessList
  simp [setBearer, PgwContext.bearerAdded]

theorem rebound_eq (h : s.Links) (hlive : s.bearers.live bearer = true)
    (rule : PccRule maxNumOfFlow) :
    s.rebound rule bearer =
      { s with
        bearers := s.bearers.modify bearer fun m => { m with
          qos := if qosChanged rule.qos (s.bearers.mem bearer).qos then rule.qos else m.qos
          pfList := if rule.flow = [] then m.pfList else [] }
        pfs := if rule.flow = [] then s.pfs
          else (s.bearers.mem bearer).pfList.foldl Pool.free s.pfs } := by
  have hself : ∀ p : Pool PgwBearerRecord, p = p.modify bearer fun m => m :=
    fun p => (Pool.modify_eq_self rfl).symm
  by_cases hnone : rule.flow = []
  · by_cases hqos : qosChanged rule.qos (s.bearers.mem bearer).qos = true
    · simp [rebound, hnone, hqos, setBearer]
    · simp [rebound, hnone, hqos, ← hself]
  · have hremove := pgwPfRemoveAll_eq (h.bearer_of_mem hlive)
    by_cases hqos : qosChanged rule.qos (s.bearers.mem bearer).qos = true
    · simp [rebound, hnone, hqos, hremove, setBearer, Pool.modify_modify]
    · simp [rebound, hnone, hqos, hremove]

/-- Nothing else of a bearer is written. -/
theorem rebound_record (h : s.Links) (hlive : s.bearers.live bearer = true)
    (rule : PccRule maxNumOfFlow) (b : PgwBearerId) :
    (s.rebound rule bearer).bearers.mem b = { s.bearers.mem b with
      qos := ((s.rebound rule bearer).bearers.mem b).qos
      pfList := ((s.rebound rule bearer).bearers.mem b).pfList } := by
  rw [rebound_eq h hlive rule]
  simp only [Pool.mem_modify]
  split
  · rename_i hb
    rw [hb]
  · rfl

theorem Links.rebound (h : s.Links) (hlive : s.bearers.live bearer = true)
    (rule : PccRule maxNumOfFlow) :
    (s.rebound rule bearer).Links ∧ (s.rebound rule bearer).bearers.live = s.bearers.live := by
  refine ⟨?_, by rw [rebound_eq h hlive rule]; rfl⟩
  have hremoved : (if rule.flow = [] then s else s.pgwPfRemoveAll bearer).Links := by
    split
    · exact h
    · exact h.pfRemoveAll hlive
  rw [PgwContext.rebound]
  split
  · apply SameShape.links _ hremoved
    exact sameShape_setBearer fun _ => ⟨rfl, rfl⟩
  · exact hremoved

theorem Tree.updatesBearer [Ogslib] (h : s.Tree) (hlive : s.bearers.live bearer = true)
    (hupdates : UpdatesBearer compile s name rule bearer pfs t out) : t.Tree := by
  obtain ⟨hlinks, hsame⟩ := h.toLinks.rebound hlive rule
  have heq := rebound_eq h.toLinks hlive rule
  apply h.of_links (hlinks.addsFilters (by rw [hsame]; exact hlive) hupdates.filters)
  · rw [hupdates.filters.toPgw, heq]
  · rw [hupdates.filters.sessList, heq]

theorem mem_of_findByQciArp {qci : UInt8} {arp : Arp}
    (h : s.pgwBearerFindByQciArp sess qci arp = some bearer) :
    bearer ∈ (s.sessMem sess).bearerList := by
  rw [pgwBearerFindByQciArp] at h
  split at h
  · cases h
  · rename_i defaultBearer bearers hlist
    rw [hlist]
    split at h
    · cases h
      exact List.mem_cons_self
    · exact List.mem_cons_of_mem _ (List.mem_of_find?_eq_some h)

/-! ## Events -/

/-- What an event does, said once for all that follows. -/
inductive Effect [Ogslib] (cfg : PgwConfig) (compile : CString → Option PgwRule) (s : PgwContext) :
    Op maxNumOfFlow → List PgwOutput → PgwContext → Prop
  | createSessionRequest {sess : PgwSessId} {bearer : PgwBearerId} {imsi apn : Bytes}
    {pdnType ebi : UInt8} {index4 index6 : Nat} {gnode : NodeId}
    {req : Option PgwSessionRequest} {t : PgwContext} :
    CreatesSess cfg s sess bearer imsi apn pdnType ebi index4 index6 gnode req t →
    Effect cfg compile s (.createSessionRequest sess bearer imsi apn pdnType ebi index4 index6
      gnode req) [] t
  | sendCcr {sess : PgwSessId} {sid : CString} : s.sess.live sess = true →
    Effect cfg compile s (.sendCcr sess sid) [] (s.pgwGxSendCcr sess sid)
  | noRule {sess : PgwSessId} {rule : PccRule maxNumOfFlow} {bearer : PgwBearerId}
    {pfs : List PgwPfId} : s.sess.live sess = true → rule.name = none →
    Effect cfg compile s (.pccRule sess rule bearer pfs) [] s
  | createBearer {sess : PgwSessId} {rule : PccRule maxNumOfFlow} {bearer : PgwBearerId}
    {pfs : List PgwPfId} {name : CString} {t : PgwContext} {out : List PgwOutput} :
    s.sess.live sess = true → rule.name = some name → rule.type = pccRuleTypeInstall →
    s.pgwBearerFindByQciArp sess rule.qos.qci rule.qos.arp = none →
    CreatesBearer compile s sess name rule bearer pfs t out →
    Effect cfg compile s (.pccRule sess rule bearer pfs) out t
  | updateBearer {sess : PgwSessId} {rule : PccRule maxNumOfFlow} {bearer b : PgwBearerId}
    {pfs : List PgwPfId} {name : CString} {t : PgwContext} {out : List PgwOutput} :
    s.sess.live sess = true → rule.name = some name → rule.type = pccRuleTypeInstall →
    s.pgwBearerFindByQciArp sess rule.qos.qci rule.qos.arp = some b →
    UpdatesBearer compile s name rule b pfs t out →
    Effect cfg compile s (.pccRule sess rule bearer pfs) out t
  | removeRule {sess : PgwSessId} {rule : PccRule maxNumOfFlow} {bearer b : PgwBearerId}
    {pfs : List PgwPfId} {name : CString} : s.sess.live sess = true → rule.name = some name →
    rule.type = pccRuleTypeRemove → s.pgwBearerFindByName sess name = some b →
    Effect cfg compile s (.pccRule sess rule bearer pfs)
      [.deleteBearerRequest b (s.bearers.mem b).ebi] s
  | noBearerResponse {sess : PgwSessId} : s.sess.live sess = true →
    Effect cfg compile s (.createBearerResponse sess none) [] s
  | createBearerResponse {sess : PgwSessId} {rsp : PgwBearerResponse} {b : PgwBearerId} :
    s.sess.live sess = true → s.pgwBearerFindByPgwS5uTeid rsp.pgwS5uTeid = some b →
    Effect cfg compile s (.createBearerResponse sess (some rsp)) []
      (s.setBearer b fun m => { m with
        ebi := rsp.ebi, sgwS5uTeid := rsp.sgwS5uTeid, gnode := some rsp.gnode })
  | noDeleteResponse {sess : PgwSessId} : s.sess.live sess = true →
    Effect cfg compile s (.deleteBearerResponse sess none) [] s
  | deleteBearerResponse {sess : PgwSessId} {ebi : UInt8} {b : PgwBearerId} :
    s.sess.live sess = true → s.pgwBearerFindByEbi sess ebi = some b →
    Effect cfg compile s (.deleteBearerResponse sess (some ebi)) [] (s.pgwBearerRemove b)
  | sessRemove {sess : PgwSessId} : s.sess.live sess = true →
    Effect cfg compile s (.sessRemove sess) [] (s.pgwSessRemove sess)

theorem silent_eq_some {x : Option PgwContext} :
    silent x = some (t, out) ↔ x = some t ∧ out = [] := by
  cases x with
  | none => simp [silent]
  | some u =>
    simp only [silent, Option.map_some, Option.some.injEq, Prod.mk.injEq]
    exact and_congr_right fun _ => eq_comm

theorem effect_of_bindRule [Ogslib] (hsess : s.sess.live sess = true)
    (h : s.bindRule compile sess rule bearer pfs = some (t, out)) :
    Effect cfg compile s (.pccRule sess rule bearer pfs) out t := by
  rw [bindRule] at h
  split at h
  · rename_i hname
    cases h
    exact .noRule hsess hname
  · rename_i name hname
    split at h
    · rename_i htype
      split at h
      · rename_i hfind
        exact .createBearer hsess hname htype hfind (createsBearer_of_createBearer h)
      · rename_i b hfind
        exact .updateBearer hsess hname htype hfind (updatesBearer_of_updateBearer h)
    · split at h
      · rename_i htype
        obtain ⟨b, hb, h⟩ := Option.bind_eq_some_iff.mp h
        cases h
        exact .removeRule hsess hname htype hb
      · cases h

theorem effect_of_step [Ogslib] {op : Op maxNumOfFlow} (h : Step cfg compile s (op, out) t) :
    Effect cfg compile s op out t := by
  rw [Step] at h
  cases op with
  | createSessionRequest =>
    obtain ⟨hcreate, rfl⟩ := silent_eq_some.mp h
    exact .createSessionRequest (createsSess_of_createSession hcreate)
  | sendCcr =>
    obtain ⟨hsess, h⟩ := Option.ite_none_right_eq_some.mp h
    cases h
    exact .sendCcr hsess
  | pccRule =>
    obtain ⟨hsess, h⟩ := Option.ite_none_right_eq_some.mp h
    exact effect_of_bindRule hsess h
  | createBearerResponse sess rsp =>
    obtain ⟨hsess, h⟩ := Option.ite_none_right_eq_some.mp h
    cases rsp with
    | none =>
      cases h
      exact .noBearerResponse hsess
    | some rsp =>
      obtain ⟨hresponse, rfl⟩ := silent_eq_some.mp h
      obtain ⟨b, hb, hresponse⟩ := Option.bind_eq_some_iff.mp hresponse
      cases hresponse
      exact .createBearerResponse hsess hb
  | deleteBearerResponse sess ebi =>
    obtain ⟨hsess, h⟩ := Option.ite_none_right_eq_some.mp h
    cases ebi with
    | none =>
      cases h
      exact .noDeleteResponse hsess
    | some ebi =>
      obtain ⟨hresponse, rfl⟩ := silent_eq_some.mp h
      obtain ⟨b, hb, hresponse⟩ := Option.bind_eq_some_iff.mp hresponse
      cases hresponse
      exact .deleteBearerResponse hsess hb
  | sessRemove =>
    obtain ⟨hsess, h⟩ := Option.ite_none_right_eq_some.mp h
    cases h
    exact .sessRemove hsess

theorem Tree.live_of_mem (h : s.Tree) (hsess : s.sess.live sess = true)
    (hmem : bearer ∈ (s.sessMem sess).bearerList) : s.bearers.live bearer = true :=
  ((h.bearers.mem_iff sess hsess bearer).mp hmem).1

theorem Tree.step [Ogslib] {a : Op maxNumOfFlow × List PgwOutput} (h : s.Tree)
    (hstep : Step cfg compile s a t) : t.Tree := by
  obtain ⟨op, out⟩ := a
  cases effect_of_step hstep with
  | createSessionRequest hcreates => exact h.createsSess hcreates
  | sendCcr =>
    apply h.of_links
    · apply SameShape.links _ h.toLinks
      exact sameShape_setSess fun _ => rfl
    · rfl
    · rfl
  | noRule => exact h
  | createBearer hsess _ _ _ hcreates => exact h.createsBearer hsess hcreates
  | updateBearer hsess _ _ hfind hupdates =>
    exact h.updatesBearer (h.live_of_mem hsess (mem_of_findByQciArp hfind)) hupdates
  | removeRule => exact h
  | noBearerResponse => exact h
  | createBearerResponse =>
    apply h.of_links
    · apply SameShape.links _ h.toLinks
      exact sameShape_setBearer fun _ => ⟨rfl, rfl⟩
    · rfl
    · rfl
  | noDeleteResponse => exact h
  | deleteBearerResponse hsess hfind =>
    have hlive := h.live_of_mem hsess (List.mem_of_find?_eq_some hfind)
    have hremoves := h.toLinks.removes hlive
    exact h.of_links (h.toLinks.bearerRemove hlive) hremoves.toPgw hremoves.sessList
  | sessRemove hsess => exact (h.sessRemove hsess).1

/-- The state after some events, if none of them ends the program. -/
def run [Ogslib] (cfg : PgwConfig) (compile : CString → Option PgwRule) (s : PgwContext)
    (ops : List (Op maxNumOfFlow)) : Option PgwContext :=
  ops.foldlM (fun s op => (s.apply cfg compile op).map Prod.fst) s

theorem reaches_of_run [Ogslib] {ops : List (Op maxNumOfFlow)} (h : s.run cfg compile ops = some t)
    :
    Lts.Reaches (@Step maxNumOfFlow _ cfg compile) s t := by
  apply Lts.reaches_of_foldlM _ h
  intro u op v hv
  obtain ⟨⟨_, out⟩, hstep, rfl⟩ := Option.map_eq_some_iff.mp hv
  exact ⟨(op, out), hstep⟩

theorem reaches_run [Ogslib] {ops : List (Op maxNumOfFlow)}
    (h : (s.run cfg compile ops).isSome = true) :
    Lts.Reaches (@Step maxNumOfFlow _ cfg compile) s ((s.run cfg compile ops).getD s) := by
  obtain ⟨t, ht⟩ := Option.isSome_iff_exists.mp h
  rw [ht]
  exact reaches_of_run ht

theorem tree_initial (arrays : List (List PgwUeIp)) : (initial arrays).Tree := by
  refine ⟨⟨?_, ?_⟩, List.nodup_nil, ?_⟩
  · apply Family.linked_of_none
    all_goals simp [initial, Pgw.init]
  · apply Family.linked_of_none
    all_goals simp [initial]
  · simp [initial, Pgw.init]

theorem tree_of_reaches [Ogslib] {arrays : List (List PgwUeIp)}
    (h : Lts.Reaches (@Step maxNumOfFlow _ cfg compile) (initial arrays) s) :
    s.Tree := by
  apply h.invariant (I := Tree)
  · exact fun s a t hs hstep => hs.step hstep
  · exact tree_initial arrays

end PgwContext
end NextEpc

import NextEpc.Pgw.SessionSelect

/-!
# Slots of the PGW that are used again

What a new session, bearer or packet filter has from the one that was in its slot before: the
fields that are not written when it is added. Where nothing of this is left, and requests and
responses are complete, a downlink packet is never given to a bearer without a node.
-/

namespace NextEpc

/-! ## Identifiers of packet filters -/

theorem nextPfIdentifier_le [Ogslib] {id : UInt8} (h : id ≤ 15) : nextPfIdentifier id ≤ 15 := by
  rw [nextPfIdentifier_eq]
  split
  · decide
  · rw [UInt8.le_iff_toNat_le] at h ⊢
    rw [← UInt8.toNat_inj] at *
    simp at *
    omega

theorem iterate_nextPfIdentifier_le [Ogslib] {id : UInt8} (n : Nat) (h : id ≤ 15) :
    nextPfIdentifier^[n] id ≤ 15 := by
  induction n generalizing id with
  | zero => exact h
  | succ n ih => exact ih (nextPfIdentifier_le h)

/-- The last identifier is followed by the one that a bearer begins with. -/
theorem nextPfIdentifier_eq_one [Ogslib] {id : UInt8} (h : id ≤ 15) :
    nextPfIdentifier id % 16 = 1 ↔ id = 0 ∨ id = 15 := by
  rw [nextPfIdentifier_eq]
  rw [UInt8.le_iff_toNat_le] at h
  split
  · rename_i hid
    simp [hid]
  · rename_i hid
    rw [← UInt8.toNat_inj, ← UInt8.toNat_inj, ← UInt8.toNat_inj]
    rw [← UInt8.toNat_inj] at hid
    simp at *
    omega

namespace PgwContext
variable {cfg : PgwConfig} {compile : CString → Option PgwRule} {maxNumOfFlow : Nat}
  {s t : PgwContext} {sess : PgwSessId} {bearer b : PgwBearerId} {pfs : List PgwPfId}
  {imsi apn : Bytes} {pdnType ebi : UInt8} {index4 index6 : Nat} {gnode : NodeId}
  {req : Option PgwSessionRequest} {name : CString} {rule : PccRule maxNumOfFlow}
  {out : List PgwOutput} {mem : Memory} {fuel read : Nat}

/-! ## New records -/

/-- The event adds a bearer for the rule. -/
def AddsBearer (s : PgwContext) (sess : PgwSessId) (rule : PccRule maxNumOfFlow) : Prop :=
  rule.name.isSome ∧ rule.type = pccRuleTypeInstall ∧
    s.pgwBearerFindByQciArp sess rule.qos.qci rule.qos.arp = none

/-- Nothing is left in the slots of what the event adds. The QoS of a default bearer is that of
its session, and no filters are added to it. -/
def SlotUnset (s : PgwContext) (a : Op maxNumOfFlow × List PgwOutput) : Prop :=
  match a.1 with
  | .createSessionRequest sess bearer _ _ pdnType _ _ _ _ req =>
    (s.sessMem sess).gxSid = none ∧
      (∀ r, req = some r → r.ambr = none → (s.sessMem sess).ambr = ⟨0, 0⟩) ∧
      (req = none → (s.sessMem sess).sgwS5cTeid = 0 ∧ (s.sessMem sess).qci = 0 ∧
        (s.sessMem sess).arp = ⟨0, 0, 0⟩ ∧ (s.sessMem sess).ambr = ⟨0, 0⟩ ∧
        (s.sessMem sess).tai = ⟨[0, 0, 0], 0⟩ ∧ (s.sessMem sess).eCgi = ⟨[0, 0, 0], 0⟩ ∧
        (s.bearers.mem bearer).sgwS5uTeid = 0) ∧
      (pdnType = Pgw.pdnTypeIpv4 → (s.sess.mem sess).ipv6 = none) ∧
      (pdnType = Pgw.pdnTypeIpv6 → (s.sess.mem sess).ipv4 = none)
  | .pccRule sess rule bearer _ => s.AddsBearer sess rule →
    (s.bearers.mem bearer).ebi = 0 ∧ (s.bearers.mem bearer).sgwS5uTeid = 0 ∧
      ((s.bearers.mem bearer).pfIdentifier = 0 ∨ (s.bearers.mem bearer).pfIdentifier = 15)
  | _ => True

/-- The records that are added are what the same event gives in pools that were never used. -/
def FreshAfter [Ogslib] (compile : CString → Option PgwRule) (s : PgwContext) (op : Op maxNumOfFlow)
    (t : PgwContext) : Prop :=
  match op with
  | .createSessionRequest sess bearer imsi _ pdnType ebi _ _ gnode req =>
    t.sessMem sess =
        (PgwSessRecord.blank.add (UInt32.ofNat sess) imsi).created bearer gnode req ∧
      t.bearers.mem bearer =
        { (PgwBearerRecord.blank.add (UInt32.ofNat bearer) sess).created ebi req with
          qos := (t.bearers.mem bearer).qos
          pfIdentifier := (t.bearers.mem bearer).pfIdentifier } ∧
      (pdnType = Pgw.pdnTypeIpv4 → (t.sess.mem sess).ipv6 = none) ∧
      (pdnType = Pgw.pdnTypeIpv6 → (t.sess.mem sess).ipv4 = none)
  | .pccRule sess rule bearer pfs => s.AddsBearer sess rule →
    t.bearers.mem bearer = { PgwBearerRecord.blank.add (UInt32.ofNat bearer) sess with
      name := rule.name
      qos := rule.qos
      pfIdentifier := nextPfIdentifier^[pfs.length] 0
      pfList := pfs } ∧
    ∀ i f, (rule.flow.zip pfs)[i]? = some f → ∃ r, f.1.description.bind compile = some r ∧
      t.pfs.mem f.2 = ⟨f.1.direction % 4, nextPfIdentifier^[i + 1] 0 % 16, r, bearer⟩
  | _ => True

/-- The identifiers of the packet filters have 4 bits. -/
def IdentifiersFit (s : PgwContext) : Prop := ∀ b, (s.bearers.mem b).pfIdentifier ≤ 15

theorem PgwSessRecord.created_eq_iff {m : PgwSessRecord} {teid : UInt32} :
    (m.add teid imsi).created bearer gnode req =
      (PgwSessRecord.blank.add teid imsi).created bearer gnode req ↔
    m.gxSid = none ∧ (∀ r, req = some r → r.ambr = none → m.ambr = ⟨0, 0⟩) ∧
      (req = none → m.sgwS5cTeid = 0 ∧ m.qci = 0 ∧ m.arp = ⟨0, 0, 0⟩ ∧ m.ambr = ⟨0, 0⟩ ∧
        m.tai = ⟨[0, 0, 0], 0⟩ ∧ m.eCgi = ⟨[0, 0, 0], 0⟩) := by
  cases req with
  | none =>
    simp [PgwSessRecord.created, PgwSessRecord.add, PgwSessRecord.blank]
    tauto
  | some r =>
    cases hambr : r.ambr with
    | none => simp [PgwSessRecord.created, PgwSessRecord.add, PgwSessRecord.blank, hambr]
    | some ambr => simp [PgwSessRecord.created, PgwSessRecord.add, PgwSessRecord.blank, hambr]

theorem PgwBearerRecord.created_eq_iff {m : PgwBearerRecord} {teid : UInt32} :
    (m.add teid sess).created ebi req =
      { (PgwBearerRecord.blank.add teid sess).created ebi req with
        qos := ((m.add teid sess).created ebi req).qos
        pfIdentifier := ((m.add teid sess).created ebi req).pfIdentifier } ↔
    (req = none → m.sgwS5uTeid = 0) := by
  cases req with
  | none => simp [PgwBearerRecord.created, PgwBearerRecord.add, PgwBearerRecord.blank]
  | some r => simp [PgwBearerRecord.created, PgwBearerRecord.add, PgwBearerRecord.blank]

/-- The address that the PDN type does not ask for is what was in the slot. -/
theorem CreatesSess.unusedAddress (h : CreatesSess cfg s sess bearer imsi apn pdnType ebi index4
    index6 gnode req t) :
    (pdnType = Pgw.pdnTypeIpv4 → (t.sess.mem sess).ipv6 = (s.sess.mem sess).ipv6) ∧
      (pdnType = Pgw.pdnTypeIpv6 → (t.sess.mem sess).ipv4 = (s.sess.mem sess).ipv4) := by
  obtain ⟨new4, new6, htakes, hadded⟩ := Pgw.pgwSessAdd_ok h.toPgw
  rw [hadded.mem_sess]
  have htype := htakes.pdnType
  constructor
  · rintro rfl
    have hnone : new6 = none := by
      rcases htype with ⟨-, -, hnone⟩ | ⟨habsurd, -⟩ | ⟨habsurd, -⟩
      · exact hnone
      · exact absurd habsurd (by decide)
      · exact absurd habsurd (by decide)
    rw [hnone, Option.none_or]
  · rintro rfl
    have hnone : new4 = none := by
      rcases htype with ⟨habsurd, -⟩ | ⟨-, hnone, -⟩ | ⟨habsurd, -⟩
      · exact absurd habsurd (by decide)
      · exact hnone
      · exact absurd habsurd (by decide)
    rw [hnone, Option.none_or]

theorem CreatesSess.freshAfter_iff [Ogslib] (h : CreatesSess cfg s sess bearer imsi apn pdnType ebi
    index4 index6 gnode req t) : @FreshAfter maxNumOfFlow _ compile s
      (.createSessionRequest sess bearer imsi apn pdnType ebi index4 index6 gnode req) t ↔
      @SlotUnset maxNumOfFlow s
        (.createSessionRequest sess bearer imsi apn pdnType ebi index4 index6 gnode req, out) := by
  obtain ⟨hipv6, hipv4⟩ := h.unusedAddress
  have hsess : t.sessMem sess =
      ((s.sessMem sess).add (UInt32.ofNat sess) imsi).created bearer gnode req := by
    rw [h.sessMem, Function.update_self]
  have hbearer : t.bearers.mem bearer =
      ((s.bearers.mem bearer).add (UInt32.ofNat bearer) sess).created ebi req := by
    rw [h.bearers, Pool.mem_modify, if_pos rfl, Pool.mem_alloc]
  have haddress : ((pdnType = Pgw.pdnTypeIpv4 → (t.sess.mem sess).ipv6 = none) ∧
      (pdnType = Pgw.pdnTypeIpv6 → (t.sess.mem sess).ipv4 = none)) ↔
      (pdnType = Pgw.pdnTypeIpv4 → (s.sess.mem sess).ipv6 = none) ∧
        (pdnType = Pgw.pdnTypeIpv6 → (s.sess.mem sess).ipv4 = none) := by
    apply and_congr
    · apply imp_congr_right
      intro htype
      rw [hipv6 htype]
    · apply imp_congr_right
      intro htype
      rw [hipv4 htype]
  rw [FreshAfter, SlotUnset, hsess, hbearer, PgwSessRecord.created_eq_iff,
    PgwBearerRecord.created_eq_iff, haddress]
  constructor
  · rintro ⟨⟨hsid, hambr, hnone⟩, hteid, haddr⟩
    refine ⟨hsid, hambr, ?_, haddr⟩
    intro hreq
    obtain ⟨h1, h2, h3, h4, h5, h6⟩ := hnone hreq
    exact ⟨h1, h2, h3, h4, h5, h6, hteid hreq⟩
  · rintro ⟨hsid, hambr, hnone, haddr⟩
    refine ⟨⟨hsid, hambr, ?_⟩, ?_, haddr⟩
    · intro hreq
      obtain ⟨h1, h2, h3, h4, h5, h6, -⟩ := hnone hreq
      exact ⟨h1, h2, h3, h4, h5, h6⟩
    · intro hreq
      exact (hnone hreq).2.2.2.2.2.2

/-- The new bearer of a rule, whose first filter tells where the identifiers begin. -/
theorem CreatesBearer.freshAfter_iff [Ogslib]
    (h : CreatesBearer compile s sess name rule bearer pfs t out)
    (hname : rule.name = some name) (hadds : s.AddsBearer sess rule)
    (hfit : (s.bearers.mem bearer).pfIdentifier ≤ 15) :
    FreshAfter compile s (.pccRule sess rule bearer pfs) t ↔
      s.SlotUnset (.pccRule sess rule bearer pfs, out) := by
  have hlength : (rule.flow.zip pfs).length = pfs.length := by
    rw [List.length_zip, h.flows.2, min_self]
  have hrecord : t.bearers.mem bearer =
      { (s.bearers.mem bearer).add (UInt32.ofNat bearer) sess with
        name := some name
        qos := rule.qos
        pfIdentifier := nextPfIdentifier^[pfs.length] (s.bearers.mem bearer).pfIdentifier
        pfList := pfs } := by
    rw [h.filters.record, map_snd_zip_of_length h.flows.2, hlength]
    simp [setBearer, bearerAdded, PgwBearerRecord.add]
  have hnew : ∀ i f, (rule.flow.zip pfs)[i]? = some f → ∃ r,
      f.1.description.bind compile = some r ∧ t.pfs.mem f.2 = ⟨f.1.direction % 4,
        nextPfIdentifier^[i + 1] (s.bearers.mem bearer).pfIdentifier % 16, r, bearer⟩ := by
    intro i f hf
    obtain ⟨r, hr, hmem⟩ := h.filters.new i f hf
    refine ⟨r, hr, ?_⟩
    simpa [setBearer, bearerAdded, PgwBearerRecord.add] using hmem
  -- there is at least one flow
  obtain ⟨f, hf⟩ : ∃ f, (rule.flow.zip pfs)[0]? = some f := by
    have hpos : 0 < (rule.flow.zip pfs).length := by
      rw [hlength, ← h.flows.2]
      exact List.length_pos_of_ne_nil h.flows.1
    exact ⟨_, List.getElem?_eq_getElem hpos⟩
  have hunset : s.SlotUnset (.pccRule sess rule bearer pfs, out) ↔
      (s.bearers.mem bearer).ebi = 0 ∧ (s.bearers.mem bearer).sgwS5uTeid = 0 ∧
        nextPfIdentifier (s.bearers.mem bearer).pfIdentifier % 16 = 1 := by
    rw [nextPfIdentifier_eq_one hfit]
    exact ⟨fun hin => hin hadds, fun hin _ => hin⟩
  rw [hunset]
  constructor
  · intro hfresh
    obtain ⟨hown, hfilters⟩ := hfresh hadds
    rw [hrecord] at hown
    injection hown with hebi _ hteid
    refine ⟨hebi, hteid, ?_⟩
    obtain ⟨r, -, hmem⟩ := hfilters 0 f hf
    obtain ⟨r', -, hmem'⟩ := hnew 0 f hf
    rw [hmem'] at hmem
    injection hmem with _ hidentifier
    exact hidentifier.trans ((nextPfIdentifier_eq_one (by decide)).mpr (.inl rfl))
  · rintro ⟨hebi, hteid, hidentifier⟩ -
    have hsame : nextPfIdentifier (s.bearers.mem bearer).pfIdentifier = nextPfIdentifier 0 := by
      rcases (nextPfIdentifier_eq_one hfit).mp hidentifier with heq | heq
      · rw [heq]
      · rw [heq, nextPfIdentifier_eq, nextPfIdentifier_eq]
        rfl
    have hiterate : ∀ n, nextPfIdentifier^[n + 1] (s.bearers.mem bearer).pfIdentifier =
        nextPfIdentifier^[n + 1] 0 := by
      intro n
      rw [Function.iterate_succ_apply, Function.iterate_succ_apply, hsame]
    constructor
    · have hpos : pfs.length - 1 + 1 = pfs.length := by
        have := List.length_pos_of_ne_nil h.flows.1
        rw [h.flows.2] at this
        omega
      rw [hrecord, ← hpos, hiterate, hname]
      simp [PgwBearerRecord.add, PgwBearerRecord.blank, hebi, hteid]
    · intro i f hf
      obtain ⟨r, hr, hmem⟩ := hnew i f hf
      rw [hiterate] at hmem
      exact ⟨r, hr, hmem⟩

theorem freshAfter_of_not_adds [Ogslib] (h : ¬s.AddsBearer sess rule) :
    FreshAfter compile s (.pccRule sess rule bearer pfs) t ↔
      s.SlotUnset (.pccRule sess rule bearer pfs, out) :=
  iff_of_true (fun hadds => absurd hadds h) fun hadds => absurd hadds h

theorem freshAfter_iff [Ogslib] {op : Op maxNumOfFlow} (hfit : s.IdentifiersFit)
    (hstep : Step cfg compile s (op, out) t) :
    FreshAfter compile s op t ↔ s.SlotUnset (op, out) := by
  cases effect_of_step hstep with
  | createSessionRequest hcreates => exact hcreates.freshAfter_iff
  | createBearer _ hname htype hfind hcreates =>
    exact hcreates.freshAfter_iff hname ⟨Option.isSome_of_eq_some hname, htype, hfind⟩ (hfit _)
  | noRule _ hname =>
    apply freshAfter_of_not_adds
    rintro ⟨hsome, -⟩
    rw [hname] at hsome
    cases hsome
  | updateBearer _ _ _ hfind =>
    apply freshAfter_of_not_adds
    rintro ⟨-, -, hnone⟩
    rw [hfind] at hnone
    cases hnone
  | removeRule _ _ htype =>
    apply freshAfter_of_not_adds
    rintro ⟨-, hinstall, -⟩
    exact absurd (htype.symm.trans hinstall) (by decide)
  | sendCcr => exact Iff.rfl
  | noBearerResponse => exact Iff.rfl
  | createBearerResponse => exact Iff.rfl
  | noDeleteResponse => exact Iff.rfl
  | deleteBearerResponse => exact Iff.rfl
  | sessRemove => exact Iff.rfl

theorem IdentifiersFit.addsFilters [Ogslib] {flows : List (Flow × PgwPfId)} (h : s.IdentifiersFit)
    (hadds : AddsFilters compile s bearer flows t) : t.IdentifiersFit := by
  intro b
  by_cases hb : b = bearer
  · rw [hb, hadds.record]
    exact iterate_nextPfIdentifier_le _ (h bearer)
  · rw [hadds.other b hb]
    exact h b

/-- The identifiers are written nowhere else. -/
theorem IdentifiersFit.congr (h : s.IdentifiersFit)
    (heq : ∀ b, (t.bearers.mem b).pfIdentifier = (s.bearers.mem b).pfIdentifier) :
    t.IdentifiersFit := by
  intro b
  rw [heq]
  exact h b

theorem IdentifiersFit.step [Ogslib] {a : Op maxNumOfFlow × List PgwOutput} (h : s.IdentifiersFit)
    (htree : s.Tree) (hstep : Step cfg compile s a t) : t.IdentifiersFit := by
  obtain ⟨op, out⟩ := a
  cases effect_of_step hstep with
  | @createSessionRequest _ _ _ _ _ _ _ _ _ req _ hcreates =>
    apply h.congr
    intro b
    rw [hcreates.bearers]
    apply Pool.apply_mem_modify
    intro m
    cases req <;> rfl
  | createBearer _ _ _ _ hcreates =>
    apply IdentifiersFit.addsFilters _ hcreates.filters
    apply h.congr
    intro b
    simp only [setBearer, bearerAdded, Pool.modify_modify]
    apply Pool.apply_mem_modify (g := PgwBearerRecord.pfIdentifier)
    exact fun _ => rfl
  | @updateBearer _ rule _ b' _ _ _ _ hsess _ _ hfind hupdates =>
    have hlive := htree.live_of_mem hsess (mem_of_findByQciArp hfind)
    apply IdentifiersFit.addsFilters _ hupdates.filters
    apply h.congr
    intro b
    rw [rebound_record htree.toLinks hlive rule b]
  | deleteBearerResponse hsess hfind =>
    have hlive := htree.live_of_mem hsess (List.mem_of_find?_eq_some hfind)
    apply h.congr
    intro b
    rw [(htree.toLinks.removes hlive).stale b]
  | sessRemove hsess =>
    apply h.congr
    intro b
    rw [(htree.sessRemove hsess).2.stale b]
  | createBearerResponse =>
    apply h.congr
    intro b
    simp only [setBearer, Pool.mem_modify]
    split <;> simp [*]
  | sendCcr => exact h
  | noRule => exact h
  | removeRule => exact h
  | noBearerResponse => exact h
  | noDeleteResponse => exact h

/-! ## Nodes -/

def HasNode (s : PgwContext) (bearer : PgwBearerId) : Prop := (s.bearers.mem bearer).gnode ≠ none

/-- The default bearer of every session has a node, and so has each other bearer unless its EBI
is 0. -/
def NodesSet (s : PgwContext) : Prop :=
  ∀ sess, s.sess.live sess = true → ∃ defaultBearer bearers,
    (s.sessMem sess).bearerList = defaultBearer :: bearers ∧ s.HasNode defaultBearer ∧
      ∀ b ∈ bearers, (s.bearers.mem b).ebi ≠ 0 → s.HasNode b

/-- The request for a session is complete and no retransmission, and no response is about the
removal of a default bearer. -/
def Complete (s : PgwContext) (a : Op maxNumOfFlow × List PgwOutput) : Prop :=
  match a.1 with
  | .createSessionRequest _ _ _ _ _ _ _ _ _ req => req ≠ none
  | .deleteBearerResponse sess (some ebi) =>
    s.pgwBearerFindByEbi sess ebi ≠ s.pgwDefaultBearerInSess sess
  | _ => True

/-- A downlink packet is given to bearers with nodes. -/
def ClassifiesToNodes (s : PgwContext) : Prop :=
  ∀ mem fuel bearer read, s.pgwBearerFindByPacket mem fuel = some (some bearer, read) →
    s.bearers.live bearer = true ∧ s.HasNode bearer

theorem NodesSet.classifies (h : s.NodesSet) (htree : s.Tree) : s.ClassifiesToNodes := by
  intro mem fuel bearer read hfind
  obtain ⟨hdr, -, hfind⟩ := findByPacket_eq_some.mp hfind
  rcases s.findInSessions_eq mem hdr with ⟨before, sess, after, hlist, -, -, heq⟩ | ⟨-, heq⟩
  · have hsess : s.sess.live sess = true := by
      rw [← htree.mem_sessList, hlist]
      exact List.mem_append_right before List.mem_cons_self
    rw [heq, Option.map_eq_some_iff] at hfind
    obtain ⟨b, hb, hsame⟩ := hfind
    cases hsame
    obtain ⟨defaultBearer, bearers, hbearers, hdefault, hrest⟩ := h sess hsess
    refine ⟨htree.live_of_mem hsess (htree.bearerInSess_mem hsess hb), ?_⟩
    rcases htree.bearerInSess_cases hsess hbearers hb with ⟨rfl, -⟩ | ⟨hmem, hebi, -⟩
    · exact hdefault
    · exact hrest bearer hmem hebi
  · rw [heq] at hfind
    cases hfind

/-- Nothing is lost where the lists are the same, and no bearer in them loses its node or gets an
EBI without one. -/
theorem NodesSet.congr (h : s.NodesSet)
    (hlive : ∀ σ, t.sess.live σ = true → s.sess.live σ = true)
    (hlist : ∀ σ, t.sess.live σ = true → (t.sessMem σ).bearerList = (s.sessMem σ).bearerList)
    (hnode : ∀ σ, t.sess.live σ = true → ∀ b ∈ (s.sessMem σ).bearerList,
      (s.HasNode b → t.HasNode b) ∧
        ((t.bearers.mem b).ebi ≠ 0 → (s.bearers.mem b).ebi ≠ 0 ∨ t.HasNode b)) :
    t.NodesSet := by
  intro σ hσ
  obtain ⟨defaultBearer, bearers, hbearers, hdefault, hrest⟩ := h σ (hlive σ hσ)
  have hin := hnode σ hσ
  rw [hbearers] at hin
  refine ⟨defaultBearer, bearers, (hlist σ hσ).trans hbearers, ?_, ?_⟩
  · exact (hin defaultBearer List.mem_cons_self).1 hdefault
  · intro b hb hebi
    obtain ⟨hkeep, hnew⟩ := hin b (List.mem_cons_of_mem _ hb)
    rcases hnew hebi with hold | hnow
    · exact hkeep (hrest b hb hold)
    · exact hnow

theorem NodesSet.createsSess (h : s.NodesSet) (htree : s.Tree) {r : PgwSessionRequest}
    (hcreates : CreatesSess cfg s sess bearer imsi apn pdnType ebi index4 index6 gnode (some r) t) :
    t.NodesSet := by
  intro σ hσ
  by_cases hσs : σ = sess
  · refine ⟨bearer, [], ?_, ?_, ?_⟩
    · rw [hσs, hcreates.sessMem, Function.update_self, PgwSessRecord.created_bearerList]
    · simp [HasNode, hcreates.bearers, PgwBearerRecord.created]
    · exact fun b hb => absurd hb List.not_mem_nil
  · have hσ := ((hcreates.live_sess σ).mp hσ).resolve_left hσs
    obtain ⟨defaultBearer, bearers, hbearers, hdefault, hrest⟩ := h σ hσ
    have hsame : ∀ b ∈ (s.sessMem σ).bearerList, t.bearers.mem b = s.bearers.mem b := by
      intro b hb
      have hne : b ≠ bearer := by
        rintro rfl
        have hlive := htree.live_of_mem hσ hb
        rw [hcreates.bearerSlot.2] at hlive
        cases hlive
      rw [hcreates.bearers, Pool.mem_modify, if_neg hne, Pool.mem_alloc]
    rw [hbearers] at hsame
    refine ⟨defaultBearer, bearers, ?_, ?_, ?_⟩
    · rw [hcreates.sessMem, Function.update_of_ne hσs, hbearers]
    · rw [HasNode, hsame defaultBearer List.mem_cons_self]
      exact hdefault
    · intro b hb hebi
      rw [HasNode, hsame b (List.mem_cons_of_mem _ hb)] at *
      exact hrest b hb hebi

/-- The node and the EBI of a bearer are those of another state. -/
theorem NodesSet.same (h : s.NodesSet) (htoPgw : t.toPgw = s.toPgw)
    (hlist : ∀ σ, (t.sessMem σ).bearerList = (s.sessMem σ).bearerList)
    (hrecord : ∀ b, (t.bearers.mem b).gnode = (s.bearers.mem b).gnode ∧
      (t.bearers.mem b).ebi = (s.bearers.mem b).ebi) : t.NodesSet := by
  apply h.congr
  · rw [htoPgw]
    exact fun _ => id
  · exact fun σ _ => hlist σ
  · intro σ _ b _
    rw [HasNode, HasNode, (hrecord b).1, (hrecord b).2]
    exact ⟨id, Or.inl⟩

theorem NodesSet.addsFilters [Ogslib] {flows : List (Flow × PgwPfId)} (h : s.NodesSet)
    (hadds : AddsFilters compile s bearer flows t) : t.NodesSet := by
  apply h.same hadds.toPgw
  · intro σ
    rw [hadds.sessMem]
  · intro b
    by_cases hb : b = bearer
    · rw [hb, hadds.record]
      exact ⟨rfl, rfl⟩
    · rw [hadds.other b hb]
      exact ⟨rfl, rfl⟩

/-- A bearer that has no EBI is added to a session. -/
theorem NodesSet.bearerAdded (h : s.NodesSet) (htree : s.Tree) (hsess : s.sess.live sess = true)
    (hfree : s.bearers.live bearer = false) (hebi : (s.bearers.mem bearer).ebi = 0)
    (qos : Qos) : ((s.bearerAdded bearer sess).setBearer bearer fun m =>
      { m with name := some name, qos := qos }).NodesSet := by
  have hother : ∀ σ, s.sess.live σ = true → ∀ b ∈ (s.sessMem σ).bearerList, b ≠ bearer := by
    rintro σ hσ b hb rfl
    have hlive := htree.live_of_mem hσ hb
    rw [hfree] at hlive
    cases hlive
  intro σ hσ
  change s.sess.live σ = true at hσ
  obtain ⟨defaultBearer, bearers, hbearers, hdefault, hrest⟩ := h σ hσ
  have hne := hother σ hσ
  rw [hbearers] at hne
  have hkept : ∀ b, b ≠ bearer → ((s.bearerAdded bearer sess).setBearer bearer fun m =>
      { m with name := some name, qos := qos }).bearers.mem b = s.bearers.mem b := by
    intro b hb
    simp [setBearer, PgwContext.bearerAdded, hb]
  by_cases hσs : σ = sess
  · subst hσs
    refine ⟨defaultBearer, bearers ++ [bearer], ?_, ?_, ?_⟩
    · simp [setBearer, PgwContext.bearerAdded, hbearers]
    · rw [HasNode, hkept _ (hne _ List.mem_cons_self)]
      exact hdefault
    · intro b hb hb0
      rcases List.mem_append.mp hb with hb | hb
      · have hb' := hkept b (hne b (List.mem_cons_of_mem _ hb))
        rw [hb'] at hb0
        rw [HasNode, hb']
        exact hrest b hb hb0
      · cases List.mem_singleton.mp hb
        simp [setBearer, PgwContext.bearerAdded, PgwBearerRecord.add, hebi] at hb0
  · refine ⟨defaultBearer, bearers, ?_, ?_, ?_⟩
    · simp [setBearer, PgwContext.bearerAdded, hσs, hbearers]
    · rw [HasNode, hkept _ (hne _ List.mem_cons_self)]
      exact hdefault
    · intro b hb hb0
      have hb' := hkept b (hne b (List.mem_cons_of_mem _ hb))
      rw [hb'] at hb0
      rw [HasNode, hb']
      exact hrest b hb hb0

/-- A response gives a bearer its node together with its EBI. -/
theorem NodesSet.createBearerResponse (h : s.NodesSet) (bearer : PgwBearerId)
    (rsp : PgwBearerResponse) : (s.setBearer bearer fun m => { m with
      ebi := rsp.ebi, sgwS5uTeid := rsp.sgwS5uTeid, gnode := some rsp.gnode }).NodesSet := by
  apply h.congr
  · exact fun _ => id
  · exact fun _ _ => rfl
  · intro σ _ b _
    by_cases hb : b = bearer
    · simp [HasNode, setBearer, hb]
    · simp only [HasNode, setBearer, Pool.mem_modify, if_neg hb]
      exact ⟨id, Or.inl⟩

/-- A bearer that is not the default bearer is removed. -/
theorem NodesSet.bearerRemove (h : s.NodesSet) (htree : s.Tree)
    (hlive : s.bearers.live bearer = true) (hsess : s.sess.live sess = true)
    (hmem : bearer ∈ (s.sessMem sess).bearerList)
    (hne : s.pgwDefaultBearerInSess sess ≠ some bearer) : (s.pgwBearerRemove bearer).NodesSet := by
  have hremoves := htree.toLinks.removes hlive
  have hrecord : ∀ b, (s.pgwBearerRemove bearer).HasNode b ↔ s.HasNode b := by
    intro b
    rw [HasNode, hremoves.stale b]
    rfl
  have hebi : ∀ b, ((s.pgwBearerRemove bearer).bearers.mem b).ebi = (s.bearers.mem b).ebi := by
    intro b
    rw [hremoves.stale b]
  have hown : (s.bearers.mem bearer).sess = sess :=
    ((htree.bearers.mem_iff sess hsess bearer).mp hmem).2
  intro σ hσ
  rw [hremoves.toPgw] at hσ
  obtain ⟨defaultBearer, bearers, hbearers, hdefault, hrest⟩ := h σ hσ
  by_cases hσs : σ = sess
  · subst hσs
    rw [pgwDefaultBearerInSess, hbearers, List.head?_cons] at hne
    have hhead : defaultBearer ≠ bearer := fun heq => hne (congrArg some heq)
    refine ⟨defaultBearer, bearers.erase bearer, ?_, (hrecord _).mpr hdefault, ?_⟩
    · rw [pgwBearerRemove_eq (htree.toLinks.bearer_of_mem hlive), hown]
      simp [setSess, hbearers, hhead]
    · intro b hb hb0
      rw [hebi] at hb0
      exact (hrecord b).mpr (hrest b (List.mem_of_mem_erase hb) hb0)
  · refine ⟨defaultBearer, bearers, ?_, (hrecord _).mpr hdefault, ?_⟩
    · rw [hremoves.other σ, hbearers]
      rintro b rfl
      rw [hown]
      exact fun heq => hσs heq.symm
    · intro b hb hb0
      rw [hebi] at hb0
      exact (hrecord b).mpr (hrest b hb hb0)

theorem NodesSet.sessRemove (h : s.NodesSet) (htree : s.Tree) (hsess : s.sess.live sess = true) :
    (s.pgwSessRemove sess).NodesSet := by
  have hremoves := (htree.sessRemove hsess).2
  apply h.congr
  · intro σ hσ
    exact ((hremoves.live σ).mp hσ).2
  · intro σ hσ
    rw [hremoves.other σ ((hremoves.live σ).mp hσ).1]
  · intro σ _ b _
    rw [HasNode, HasNode, hremoves.stale b]
    exact ⟨id, Or.inl⟩

/-! ## Runs -/

theorem NodesSet.step [Ogslib] {a : Op maxNumOfFlow × List PgwOutput} (h : s.NodesSet)
    (htree : s.Tree) (hunset : s.SlotUnset a) (hcomplete : s.Complete a)
    (hstep : Step cfg compile s a t) :
    t.NodesSet := by
  obtain ⟨op, out⟩ := a
  cases effect_of_step hstep with
  | @createSessionRequest _ _ _ _ _ _ _ _ _ req _ hcreates =>
    cases req with
    | none => exact absurd rfl hcomplete
    | some r => exact h.createsSess htree hcreates
  | sendCcr =>
    apply h.same
    · rfl
    · intro σ
      simp only [pgwGxSendCcr, setSess, Function.update_apply]
      split <;> simp [*]
    · exact fun _ => ⟨rfl, rfl⟩
  | createBearer hsess hname htype hfind hcreates =>
    have hebi := (hunset ⟨Option.isSome_of_eq_some hname, htype, hfind⟩).1
    exact (h.bearerAdded htree hsess hcreates.slot.2 hebi _).addsFilters hcreates.filters
  | @updateBearer _ rule _ _ _ _ _ _ hsess _ _ hfind hupdates =>
    have hlive := htree.live_of_mem hsess (mem_of_findByQciArp hfind)
    have heq := rebound_eq htree.toLinks hlive rule
    apply NodesSet.addsFilters _ hupdates.filters
    apply h.same
    · rw [heq]
    · rw [heq]
      exact fun _ => rfl
    · intro b
      rw [rebound_record htree.toLinks hlive rule b]
      exact ⟨rfl, rfl⟩
  | createBearerResponse => exact h.createBearerResponse _ _
  | deleteBearerResponse hsess hfind =>
    have hmem := List.mem_of_find?_eq_some hfind
    apply h.bearerRemove htree (htree.live_of_mem hsess hmem) hsess hmem
    intro hdefault
    exact hcomplete (hfind.trans hdefault.symm)
  | sessRemove hsess => exact h.sessRemove htree hsess
  | noRule => exact h
  | removeRule => exact h
  | noBearerResponse => exact h
  | noDeleteResponse => exact h

/-- What holds where nothing is left in slots and all requests and responses are complete. -/
structure Clean (s : PgwContext) : Prop where
  nodes : s.NodesSet
  classifies : s.ClassifiesToNodes

/-- A step after which the new records are as in pools that were never used. -/
def FreshStep [Ogslib] (cfg : PgwConfig) (compile : CString → Option PgwRule) (s : PgwContext)
    (a : Op maxNumOfFlow × List PgwOutput) (t : PgwContext) : Prop :=
  FreshAfter compile s a.1 t ∧ Step cfg compile s a t

theorem nodesSet_initial (arrays : List (List PgwUeIp)) : (initial arrays).NodesSet := by
  intro σ hσ
  cases hσ

theorem identifiersFit_initial (arrays : List (List PgwUeIp)) :
    (initial arrays).IdentifiersFit := by
  intro b
  exact UInt8.zero_le

/-- What holds in every state. -/
def Sane (s : PgwContext) : Prop := s.Tree ∧ s.IdentifiersFit

theorem Sane.step [Ogslib] {a : Op maxNumOfFlow × List PgwOutput} (h : s.Sane)
    (hstep : Step cfg compile s a t) : t.Sane :=
  ⟨h.1.step hstep, h.2.step h.1 hstep⟩

theorem sane_initial (arrays : List (List PgwUeIp)) : (initial arrays).Sane :=
  ⟨tree_initial arrays, identifiersFit_initial arrays⟩

/-- In a run all new records are as in pools that were never used if and only if nothing is left
in the slots they get. If the requests and responses are complete as well, every default bearer has
a node, every other bearer has an EBI only together with a node, and downlink packets are given to
bearers with nodes. -/
theorem freshSlots_run [Ogslib] (cfg : PgwConfig) (compile : CString → Option PgwRule)
    (maxNumOfFlow : Nat) (arrays : List (List PgwUeIp))
    (tr : List ((Op maxNumOfFlow × List PgwOutput) × PgwContext)) :
    (Lts.Trace (FreshStep cfg compile) (initial arrays) tr ↔
      Lts.Trace (Lts.Restrict SlotUnset (Step cfg compile)) (initial arrays) tr) ∧
    (Lts.Trace (Lts.Restrict (fun s a => s.SlotUnset a ∧ s.Complete a) (Step cfg compile))
      (initial arrays) tr → ∀ p ∈ tr, p.2.Clean) := by
  constructor
  · apply Lts.Trace.congr (J := Sane)
    · exact fun s a t hs hstep => hs.step hstep.2
    · intro s a t hs
      apply and_congr_left
      exact fun hstep => freshAfter_iff hs.2 hstep
    · exact sane_initial arrays
  · intro htrace
    have hboth : ∀ p ∈ tr, p.2.Tree ∧ p.2.NodesSet := by
      apply htrace.invariant (I := fun s => s.Tree ∧ s.NodesSet)
      · rintro s a t ⟨htree, hnodes⟩ ⟨⟨hunset, hcomplete⟩, hstep⟩
        exact ⟨htree.step hstep, hnodes.step htree hunset hcomplete hstep⟩
      · exact ⟨tree_initial arrays, nodesSet_initial arrays⟩
    intro p hp
    obtain ⟨htree, hnodes⟩ := hboth p hp
    exact ⟨hnodes, hnodes.classifies htree⟩

attribute [local instance] Ogslib.reference

/-- A session in pools that were never used. -/
theorem freshSlots_run_session : (withSession Pgw.pdnTypeIpv4).Clean := by
  have hstep := step_withSession 8 (by decide : ((initial coincidingArrays).createSession
    coincidingSubnets 1 1 [] [] Pgw.pdnTypeIpv4 5 0 0 7 (some sessionRequest)).isSome = true)
  have hunset : (initial coincidingArrays).SlotUnset (@sessionOf 8 Pgw.pdnTypeIpv4, []) :=
    ⟨rfl, fun _ _ _ => rfl, fun hnone => (by cases hnone), fun _ => rfl, fun _ => rfl⟩
  have hcomplete : (initial coincidingArrays).Complete (@sessionOf 8 Pgw.pdnTypeIpv4, []) :=
    fun hnone => by cases hnone
  exact (freshSlots_run _ _ _ _ _).2 (.cons ⟨⟨hunset, hcomplete⟩, hstep⟩ (.nil _)) _
    List.mem_cons_self

/-- A rule for all packets. -/
def anyPacket : PgwRule := .blank

def anyPacketRule : PccRule 1 where
  type := pccRuleTypeInstall
  name := some ⟨[1], by decide⟩
  flow := [⟨1, some ⟨[1], by decide⟩⟩]
  flow_le := le_refl 1
  flowStatus := 0
  precedence := 10
  qos := ⟨1, ⟨1, 0, 0⟩, ⟨0, 0⟩, ⟨0, 0⟩⟩

/-- A session with a bearer for the rule, which gets the EBI 6 and is removed. Then the rule is
installed again, and the new bearer gets the slot. -/
def bearerReused : PgwContext :=
  ((initial coincidingArrays).run coincidingSubnets (fun _ => some anyPacket)
    [.createSessionRequest 1 1 [] [] Pgw.pdnTypeIpv4 5 0 0 7
        (some ⟨[], 8, 9, 7, 9, ⟨1, 0, 0⟩, none, ⟨[], 1⟩, ⟨[], 1⟩⟩),
      .pccRule 1 anyPacketRule 2 [0], .createBearerResponse 1 (some ⟨2, 6, 10, 7⟩),
      .deleteBearerResponse 1 (some 6), .pccRule 1 anyPacketRule 2 [0]]).getD
    (initial coincidingArrays)

/-- The new bearer has the EBI of the old one and no node, and a downlink packet is given to it. -/
theorem freshSlots_reused : ¬∀ (cfg : PgwConfig) (compile : CString → Option PgwRule)
    (arrays : List (List PgwUeIp)), pgwUePoolGenerate cfg = .ok arrays → ∀ s,
      Lts.Reaches (@Step 1 _ cfg compile) (initial arrays) s → s.ClassifiesToNodes := by
  intro hclaim
  have hclassifies := hclaim _ _ _ pgwUePoolGenerate_coinciding bearerReused
    (reaches_run (by decide))
  have hfind : bearerReused.pgwBearerFindByPacket packetTo 0 = some (some 2, 32) := by
    decide +kernel
  exact (hclassifies packetTo 0 2 32 hfind).2 (by decide)

end PgwContext
end NextEpc

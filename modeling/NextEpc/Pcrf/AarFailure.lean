import NextEpc.Pcrf.Rar

/-!
# AA-Requests that fail

A request may be answered with a failure after some of its components were bound to rules. What
these have written stays: here is exactly when that is nothing.
-/

namespace NextEpc

namespace Pcrf
variable {maxNumOfFlow : Nat}

section
variable {share : UInt64 → UInt64 → UInt64 → UInt64} {db : List (PccRule maxNumOfFlow)}
  {c : MediaComponent maxNumOfFlow} {cs : List (MediaComponent maxNumOfFlow)}
  {st st' : AaState maxNumOfFlow} {code : UInt32} {stored : PccRule maxNumOfFlow}

/-! ## The components before the one that is refused -/

theorem not_refused (h : bindComponent share db st c = some (.ok st')) : ¬Refused db c := by
  rintro ⟨hnumber, hrefused⟩
  obtain ⟨dbPccRule, g, d, hdb, hg, -⟩ := bindComponent_ok h hnumber
  rw [bindComponent, if_neg hnumber] at h
  rcases hrefused with htype | hnone | hnone
  · rw [if_pos htype] at h
    cases h
  · cases hdb.symm.trans hnone
  · cases hg.symm.trans hnone

/-- The components that have been bound when the loop is left. -/
def boundBefore (db : List (PccRule maxNumOfFlow)) (cs : List (MediaComponent maxNumOfFlow)) :
    List (MediaComponent maxNumOfFlow) :=
  cs.takeWhile fun c => ¬Refused db c

theorem bindComponents_before (h : bindComponents share db cs st = some (.error (st', code))) :
    bindComponents share db (boundBefore db cs) st = some (.ok st') := by
  induction cs generalizing st with
  | nil => cases h
  | cons c cs ih =>
    obtain ⟨r, hr, h⟩ := Option.bind_eq_some_iff.mp h
    cases r with
    | error e =>
      cases h
      obtain ⟨rfl, hrefused, -⟩ := bindComponent_error hr
      rw [boundBefore, List.takeWhile_cons_of_neg (by simpa using hrefused)]
      rfl
    | ok st₁ =>
      rw [boundBefore, List.takeWhile_cons_of_pos (by simpa using not_refused hr),
        bindComponents, hr]
      exact ih h

/-! ## What they leave -/

/-- The bit rates of a component do not depend on those that the rule has. -/
theorem updateQos_congr {pccRule pccRule' updated : PccRule maxNumOfFlow}
    (h : updateQos share pccRule c = some (.ok updated))
    (hqci : pccRule'.qos.qci = pccRule.qos.qci) (harp : pccRule'.qos.arp = pccRule.qos.arp) :
    ∃ updated', updateQos share pccRule' c = some (.ok updated') ∧ updated'.qos = updated.qos := by
  obtain ⟨r, hr, h⟩ := Option.bind_eq_some_iff.mp h
  cases r with
  | error qos => cases h
  | ok qos =>
    cases h
    have hreset : { pccRule'.qos with mbr := ⟨0, 0⟩, gbr := ⟨0, 0⟩ } =
        { pccRule.qos with mbr := ⟨0, 0⟩, gbr := ⟨0, 0⟩ } := by rw [Qos.mk.injEq]; simp [hqci, harp]
    refine ⟨{ pccRule' with qos := defaultRates c qos }, ?_, rfl⟩
    rw [updateQos, hreset, hr]
    rfl

theorem applyDb_qos {dbPccRule pccRule pccRule' : PccRule maxNumOfFlow}
    (h : pccRule'.qos = pccRule.qos) :
    (applyDb dbPccRule pccRule').qos = (applyDb dbPccRule pccRule).qos := by
  simp only [applyDb, h]

/-- The bit rates that a component gives to a rule. -/
def GivesQos (share : UInt64 → UInt64 → UInt64 → UInt64) (db : List (PccRule maxNumOfFlow))
    (stored : PccRule maxNumOfFlow) (c : MediaComponent maxNumOfFlow) (qos : Qos) : Prop :=
  ∃ dbPccRule updated, qciRule db = some dbPccRule ∧
    updateQos share stored c = some (.ok updated) ∧ qos = (applyDb dbPccRule updated).qos

theorem GivesQos.congr {stored' : PccRule maxNumOfFlow} {qos : Qos}
    (h : GivesQos share db stored' c qos) (hqci : stored.qos.qci = stored'.qos.qci)
    (harp : stored.qos.arp = stored'.qos.arp) : GivesQos share db stored c qos := by
  obtain ⟨dbPccRule, updated, hdb, hupdated, hqos⟩ := h
  obtain ⟨updated', hupdated', heq⟩ := updateQos_congr hupdated hqci harp
  exact ⟨dbPccRule, updated', hdb, hupdated', hqos.trans (applyDb_qos heq).symm⟩

theorem GivesQos.kept {qos : Qos} (h : GivesQos share db stored c qos) :
    qos.qci = stored.qos.qci ∧ qos.arp = stored.qos.arp := by
  obtain ⟨dbPccRule, updated, -, hupdated, rfl⟩ := h
  rcases updateQos_cases hupdated with ⟨g, qos', -, hok, hqci, harp⟩ | ⟨-, _, herror⟩
  · cases hok
    exact ⟨hqci, harp⟩
  · cases herror

theorem GivesQos.unique {qos qos' : Qos} (h : GivesQos share db stored c qos)
    (h' : GivesQos share db stored c qos') : qos = qos' := by
  obtain ⟨dbPccRule, updated, hdb, hupdated, rfl⟩ := h
  obtain ⟨dbPccRule', updated', hdb', hupdated', rfl⟩ := h'
  cases hdb.symm.trans hdb'
  cases hupdated.symm.trans hupdated'
  rfl

/-- The rule that was there keeps its place. Its flows are those of the rounds, its bit rates
those of the last component. -/
theorem Binds.keeps_rule (h : Binds share db st cs st') (hstored : qciRule st.pccRule = some stored)
    (flows : List Flow) :
    ∃ j flow hle qos,
      (st.pccRule.findIdx? fun pccRule => pccRule.qos.qci == pdnQci1) = some j ∧
      st'.pccRule = st.pccRule.set j { stored with
        flow := flow
        flow_le := hle
        qos := qos } ∧
      ((cs.map fun c => (gxFlows c).getD []).foldl refill (some stored.flow, flows)).1 =
        some flow ∧
      (cs = [] → qos = stored.qos) ∧
      ∀ c, cs.getLast? = some c → GivesQos share db stored c qos := by
  induction h generalizing stored flows with
  | nil =>
    obtain ⟨j, hj, hget⟩ := exists_findIdx hstored
    refine ⟨j, stored.flow, stored.flow_le, stored.qos, hj, (set_of_getElem? hget).symm, rfl,
      fun _ => rfl, fun c hc => ?_⟩
    cases hc
  | @cons st st₁ st' c cs hround hnumber _ ih =>
    obtain ⟨dbPccRule, g, d, hdb, hg, -, hstored₁, -, hpresence, hrule⟩ :=
      bindComponent_ok hround hnumber
    rcases hrule with ⟨hnone, -⟩ | ⟨j, stored', qos, hle, hsome, hj, hset, hupdate, hd⟩
    · cases hstored.symm.trans hnone
    · cases hstored.symm.trans hsome
      have hgives : GivesQos share db stored c qos := by
        obtain ⟨updated, hupdated, hqos⟩ := hupdate
        exact ⟨dbPccRule, updated, hdb, hupdated, hqos⟩
      obtain ⟨hqci, harp⟩ := hgives.kept
      have hdqos : d.pccRule.qos = qos := congrArg PccRule.qos hd
      obtain ⟨j', flow, hle', qos', hj', hset', hflow, hkept, hlast⟩ :=
        ih hstored₁ (refill (some stored.flow, flows) g).2
      have hnew : (d.pccRule.qos.qci == pdnQci1) = true := by
        simpa using List.find?_some hstored₁
      rw [hset, (find_set_findIdx hj hnew).2.2] at hj'
      cases hj'
      refine ⟨j, flow, hle', qos', hj, ?_, ?_, fun hnil => absurd hnil (List.cons_ne_nil _ _), ?_⟩
      · rw [hset', hset, List.set_set, hd]
      · have hround : refill (some stored.flow, flows) g =
            (some d.pccRule.flow, (refill (some stored.flow, flows) g).2) := by
          have hdflow : d.pccRule.flow = if d.flowPresence then g else stored.flow :=
            congrArg PccRule.flow hd
          rw [hsome, Option.map_some] at hpresence
          rw [refill]
          by_cases hre : Reinstalls (some stored.flow) g
          · rw [if_pos (hpresence.trans (decide_eq_true hre))] at hdflow
            rw [if_pos hre, hdflow]
          · rw [if_neg (by rw [hpresence, decide_eq_false hre]; decide)] at hdflow
            rw [if_neg hre, hdflow]
        rw [List.map_cons, List.foldl_cons, hg, Option.getD_some, hround]
        exact hflow
      · intro c' hc'
        by_cases hnil : cs = []
        · rw [hnil, List.getLast?_singleton, Option.some.injEq] at hc'
          rw [← hc', hkept hnil, hdqos]
          exact hgives
        · rw [List.getLast?_cons_of_ne_nil hnil] at hc'
          exact (hlast c' hc').congr (by rw [hdqos, hqci]) (by rw [hdqos, harp])

theorem bindComponents_unbound (h : bindComponents share db cs st = some (.ok st'))
    (hnil : bound cs = []) : st' = st := by
  have hbinds := binds_of_bindComponents h
  rw [hnil] at hbinds
  cases hbinds
  rfl

theorem Binds.length_le (h : Binds share db st cs st') :
    st.pccRule.length ≤ st'.pccRule.length := by
  induction h with
  | nil => exact le_rfl
  | cons hround hnumber _ ih =>
    apply le_trans _ ih
    obtain ⟨_, _, _, -, -, -, -, -, -, hrule⟩ := bindComponent_ok hround hnumber
    rcases hrule with ⟨-, -, hlength⟩ | ⟨j, _, _, _, -, -, hset, -⟩
    · omega
    · rw [hset, List.length_set]

/-- Where there was no rule, the first component makes one. -/
theorem Binds.length_lt (h : Binds share db st cs st') (hnone : qciRule st.pccRule = none)
    (hne : cs ≠ []) : st.pccRule.length < st'.pccRule.length := by
  cases h with
  | nil => exact absurd rfl hne
  | cons hround hnumber hrest =>
    obtain ⟨_, _, _, -, -, -, -, -, -, hrule⟩ := bindComponent_ok hround hnumber
    have hle := hrest.length_le
    rcases hrule with ⟨-, -, hlength⟩ | ⟨j, _, _, _, hsome, -⟩
    · omega
    · cases hnone.symm.trans hsome

/-- No component was bound. Or the flows that were installed one after another are in the end
those of the rule, and the last component gives it the bit rates that it has. -/
def LeavesRule (share : UInt64 → UInt64 → UInt64 → UInt64) (db rules : List (PccRule maxNumOfFlow))
    (cs : List (MediaComponent maxNumOfFlow)) : Prop :=
  bound cs = [] ∨ ∃ stored, qciRule rules = some stored ∧
    (((bound cs).map fun c => (gxFlows c).getD []).foldl refill
      (some stored.flow, stored.flow)).1 = some stored.flow ∧
    ∀ c, (bound cs).getLast? = some c → GivesQos share db stored c stored.qos

theorem bindComponents_rules_iff (h : bindComponents share db cs st = some (.ok st')) :
    st'.pccRule = st.pccRule ↔ LeavesRule share db st.pccRule cs := by
  by_cases hnil : bound cs = []
  · rw [bindComponents_unbound h hnil]
    exact iff_of_true rfl (Or.inl hnil)
  · cases hstored : qciRule st.pccRule with
    | none =>
      have hlength := (binds_of_bindComponents h).length_lt hstored hnil
      apply iff_of_false
      · intro heq
        rw [heq] at hlength
        exact lt_irrefl _ hlength
      · rintro (hnil' | ⟨stored, hsome, -⟩)
        · exact hnil hnil'
        · cases hstored.symm.trans hsome
    | some stored =>
      obtain ⟨j, flow, hle, qos, hj, hset, hflow, -, hlast⟩ :=
        (binds_of_bindComponents h).keeps_rule hstored stored.flow
      obtain ⟨j', hj', hget⟩ := exists_findIdx hstored
      cases hj.symm.trans hj'
      obtain ⟨hlt, -⟩ := List.getElem?_eq_some_iff.mp hget
      constructor
      · intro heq
        have hrule := congrArg (·[j]?) (hset.symm.trans heq)
        simp only [List.getElem?_set_self hlt, hget, Option.some.injEq] at hrule
        have hflow' : flow = stored.flow := congrArg PccRule.flow hrule
        have hqos' : qos = stored.qos := congrArg PccRule.qos hrule
        rw [hflow'] at hflow
        rw [hqos'] at hlast
        exact Or.inr ⟨stored, hstored, hflow, hlast⟩
      · rintro (hnil' | ⟨stored', hsome, hflow', hlast'⟩)
        · exact absurd hnil' hnil
        · cases hstored.symm.trans hsome
          cases hflow.symm.trans hflow'
          have hc := List.getLast?_eq_some_getLast hnil
          cases (hlast _ hc).unique (hlast' _ hc)
          rw [hset]
          exact set_of_getElem? hget

end

/-! ## The request -/

section
variable {env : PcrfEnv maxNumOfFlow} {gx gx' : GxSess maxNumOfFlow} {sid : CString}
  {rar : Option (List (RuleDefinition maxNumOfFlow))} {code : UInt32}
  {cs : List (MediaComponent maxNumOfFlow)}

/-- The list of the Gx session with other rules of the Rx session is the one it has been if the Rx
session was in it and the rules are the same. -/
theorem findOrAdd_set_eq_iff {rxList : List (RxEntry maxNumOfFlow)} {entry : RxEntry maxNumOfFlow}
    (h : (findOrAdd rxList sid).1[(findOrAdd rxList sid).2]? = some entry)
    (rules : List (PccRule maxNumOfFlow)) :
    (findOrAdd rxList sid).1.set (findOrAdd rxList sid).2 { entry with pccRule := rules } = rxList ↔
      (∃ entry ∈ rxList, entry.sid = sid) ∧ rules = entry.pccRule := by
  unfold findOrAdd at h ⊢
  split at h
  · rename_i j hj
    obtain ⟨hlt, hget, -⟩ := List.findIdx?_eq_some_iff_getElem.mp hj
    have hmem : ∃ entry ∈ rxList, entry.sid = sid :=
      ⟨_, List.getElem_mem hlt, by simpa using hget⟩
    rw [and_iff_right hmem]
    constructor
    · intro heq
      have hentry := congrArg (·[j]?) heq
      simp only [List.getElem?_set_self hlt, h, Option.some.injEq] at hentry
      exact congrArg RxEntry.pccRule hentry
    · rintro rfl
      exact set_of_getElem? h
  · rename_i hnone
    apply iff_of_false
    · intro heq
      have hlength := congrArg List.length heq
      simp at hlength
    · rintro ⟨⟨entry', hmem, hsid⟩, -⟩
      have hnot := List.findIdx?_eq_none_iff.mp hnone entry' hmem
      simp [hsid] at hnot

/-- A request that fails has no Re-Auth-Request. The Gx session is left as it was if the Rx session
was in its list and its rule is left. -/
theorem sendRarAa_fails (h : sendRarAa env sid cs gx = some (gx', rar, code))
    (hcode : code ≠ erDiameterSuccess) :
    rar = none ∧ (gx' = gx ↔ (∃ entry ∈ gx.rxList, entry.sid = sid) ∧
      ∀ db, subscriberRules env gx = some db →
        LeavesRule env.share db (rxRules gx sid) (boundBefore db cs)) := by
  obtain ⟨entry, hentry, h⟩ := Option.bind_eq_some_iff.mp h
  obtain ⟨imsiBcd, himsi, h⟩ := Option.bind_eq_some_iff.mp h
  obtain ⟨apn, hapn, h⟩ := Option.bind_eq_some_iff.mp h
  replace hentry : (findOrAdd gx.rxList sid).1[(findOrAdd gx.rxList sid).2]? = some entry := hentry
  obtain ⟨hsid, hrules, -⟩ := findOrAdd_spec hentry
  have hset := findOrAdd_set_eq_iff hentry
  have hsubscriber : subscriberRules env gx = env.qosData imsiBcd apn := by
    simp [subscriberRules, himsi, hapn]
  have hgx (rxList : List (RxEntry maxNumOfFlow)) :
      { gx with rxList := rxList } = gx ↔ rxList = gx.rxList :=
    ⟨congrArg GxSess.rxList, fun heq => by rw [heq]⟩
  split at h
  · rename_i hdb
    cases h
    refine ⟨rfl, (hgx _).trans ?_⟩
    have hown : (findOrAdd gx.rxList sid).1 = gx.rxList ↔ ∃ entry ∈ gx.rxList, entry.sid = sid := by
      rw [← (hset entry.pccRule).trans (and_iff_left rfl)]
      exact iff_of_eq (congrArg (· = gx.rxList) (set_of_getElem? hentry).symm)
    rw [hsubscriber, hdb]
    exact hown.trans (by simp)
  · rename_i db hdb
    obtain ⟨r, hr, h⟩ := Option.bind_eq_some_iff.mp h
    cases r with
    | error e =>
      obtain ⟨st, code'⟩ := e
      cases h
      have hleaves := bindComponents_rules_iff (bindComponents_before hr)
      refine ⟨rfl, (hgx _).trans ((hset st.pccRule).trans ?_)⟩
      rw [hleaves, hsubscriber, hdb, hrules, rxRules]
      simp
    | ok st =>
      simp only at h
      split at h
      · cases h
        exact absurd rfl hcode
      · obtain ⟨_, -, h⟩ := Option.bind_eq_some_iff.mp h
        cases h
        exact absurd rfl hcode

end

/-- Nothing is left of a request. -/
def Undone (p p' : PcrfContext maxNumOfFlow) (sid : CString)
    (rar : Option (List (RuleDefinition maxNumOfFlow))) : Prop :=
  p'.gx = p.gx ∧ (∀ rx, p.rx sid = some rx → p'.rx sid = some rx) ∧ rar = none

/-- There is no state of the Rx session, and no Gx session or one that has the Rx session in its
list and keeps its rule. -/
def Leaves (env : PcrfEnv maxNumOfFlow) (p : PcrfContext maxNumOfFlow) (sid : CString)
    (gxSid : Option CString) (avps : List Avp) : Prop :=
  p.rx sid = none ∧ ∀ g gx msg, gxSid = some g → p.gx g = some gx →
    Rx.decodeAar maxNumOfFlow none avps = some msg →
    (∃ entry ∈ gx.rxList, entry.sid = sid) ∧
    ∀ db, subscriberRules env gx = some db →
      LeavesRule env.share db (rxRules gx sid) (boundBefore db msg.mediaComponent)

end Pcrf

open Pcrf

/-- An AA-Request that is answered with a failure leaves the state of the PCRF as it was if and only
if there was no state of the Rx session and either no Gx session or one in whose list the Rx
session was already, with a rule that the components before the failure leave as it is. -/
theorem aarCb_undone_iff {maxNumOfFlow : Nat} (env : PcrfEnv maxNumOfFlow)
    (p p' : PcrfContext maxNumOfFlow) (sid : CString) (gxSid : Option CString) (known : Bool)
    (avps : List Avp) (code : UInt32) (rar : Option (List (RuleDefinition maxNumOfFlow)))
    (h : aarCb env sid gxSid known avps p = some (p', code, rar))
    (hcode : code ≠ erDiameterSuccess) :
    Undone p p' sid rar ↔ Leaves env p sid gxSid avps := by
  have hrx (rx : CString → Option RxSess) (hdropped : rx = Function.update p.rx sid none) :
      (∀ state, p.rx sid = some state → rx sid = some state) ↔ p.rx sid = none := by
    rw [hdropped, Function.update_self]
    cases p.rx sid <;> simp
  cases gxSid with
  | none =>
    cases h
    rw [Undone, Leaves, hrx _ rfl]
    simp
  | some g =>
    obtain ⟨msg, hmsg, h⟩ := Option.bind_eq_some_iff.mp h
    cases hgx : p.gx g with
    | none =>
      rw [hgx] at h
      cases h
      have hnoGx : ∀ g' gx msg, some g = some g' → p.gx g' = some gx →
          Rx.decodeAar maxNumOfFlow none avps = some msg →
          (∃ entry ∈ gx.rxList, entry.sid = sid) ∧ ∀ db, subscriberRules env gx = some db →
            LeavesRule env.share db (rxRules gx sid) (boundBefore db msg.mediaComponent) := by
        rintro g' gx msg' hg hgx' -
        cases hg
        cases hgx.symm.trans hgx'
      rw [Undone, Leaves, hrx _ rfl, and_iff_left hnoGx]
      simp
    | some gx =>
      rw [hgx] at h
      obtain ⟨⟨gx', rar', code'⟩, hsend, h⟩ := Option.bind_eq_some_iff.mp h
      simp only at h
      split at h
      · rename_i hsuccess
        cases h
        exact absurd hsuccess hcode
      · cases h
        obtain ⟨hrar, hleaves⟩ := sendRarAa_fails hsend hcode
        have hgxs : Function.update p.gx g (some gx') = p.gx ↔ gx' = gx := by
          rw [Function.update_eq_self_iff, hgx, Option.some.injEq]
        rw [Undone, hrx _ rfl, hgxs, and_iff_left hrar, hleaves, Leaves, and_comm]
        apply and_congr_right
        intro hnone
        rw [retrieveOrNew, hnone] at hmsg
        constructor
        · rintro hrules g' gx₁ msg' hg hgx₁ hmsg'
          cases hg
          cases hgx.symm.trans hgx₁
          cases hmsg.symm.trans hmsg'
          exact hrules
        · intro hall
          exact hall g gx msg rfl hgx hmsg

namespace Pcrf

/-- `OGS_DIAM_RX_MEDIA_TYPE_VIDEO` -/
def mediaTypeVideo : UInt32 := 1

/-- The Gx session after a request for video has failed. -/
def registered : GxSess 4 := { idle with rxList := [⟨rxSid, []⟩] }

end Pcrf

/-- Once the Rx session is in the list, another request for video leaves nothing. -/
theorem aarCb_undone_again : ∃ p' code rar,
    aarCb voice rxSid (some gxSid) true (aar [component mediaTypeVideo [permitOut1]])
      (started registered) = some (p', code, rar) ∧ Undone (started registered) p' rxSid rar := by
  refine ⟨_, _, _, rfl, (aarCb_undone_iff voice (started registered) _ rxSid (some gxSid) true
    (aar [component mediaTypeVideo [permitOut1]]) _ _ rfl (by decide)).mpr ⟨rfl, ?_⟩⟩
  rintro g gx msg hg hgx hmsg
  cases hg
  cases hgx
  cases hmsg
  refine ⟨⟨_, List.mem_cons_self, rfl⟩, fun db hdb => Or.inl ?_⟩
  cases hdb
  rfl

/-- A component for video behind one for voice: the request fails, and the Rx session and the rule
for voice are in the Gx session. -/
theorem aarCb_undone_fails : ∃ p' code rar,
    aarCb voice rxSid (some gxSid) true
      (aar [component mediaTypeAudio [permitOut1], component mediaTypeVideo [permitOut2]])
      (started idle) = some (p', code, rar) ∧ code ≠ erDiameterSuccess ∧
    ¬Undone (started idle) p' rxSid rar := by
  refine ⟨_, _, _, rfl, by decide, ?_⟩
  intro h
  have hgx := congrFun h.1 gxSid
  revert hgx
  decide

end NextEpc

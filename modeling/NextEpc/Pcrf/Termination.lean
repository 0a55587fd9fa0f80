import NextEpc.Pcrf.SessionsRun

/-!
# Session-Termination-Requests

The rules of the Rx session are removed from the PGW and its entry from the Gx session. The same
function serves AA-Requests, and what it returns without a Re-Auth-Request is an error.
-/

namespace NextEpc

namespace Pcrf
variable {maxNumOfFlow : Nat}

/-- `OGS_DIAM_AVP_UNSUPPORTED` -/
def avpUnsupported : UInt32 := 5001

/-- `OGS_DIAM_MISSING_AVP` -/
def missingAvp : UInt32 := 5004

/-- The result code of an answer after `pcrf_gx_send_rar` has failed with a result code -/
def strAnswer (code : UInt32) : UInt32 :=
  if code = avpUnsupported then avpUnsupported
  else if code = unknownSessionId then unknownSessionId
  else missingAvp

/-- `pcrf_rx_str_cb`: the states, the result code of the answer and the names of the rules in the
Re-Auth-Request. `known` is whether there is a Diameter session when there is no Gx session. -/
def strCb (sid : CString) (known : Bool) (p : PcrfContext maxNumOfFlow) :
    Option (PcrfContext maxNumOfFlow × UInt32 × Option (List CString)) := do
  let rx ← p.rx sid
  let gxSid ← rx.gxSid
  -- `state_cleanup`
  let dropped := Function.update p.rx sid none
  if rx.aborted then some ({ p with rx := dropped }, erDiameterSuccess, none)
  else
    match p.gx gxSid with
    | none =>
      some ({ p with rx := dropped }, strAnswer (if known then unknownSessionId else unknownPeer),
        none)
    | some gx => do
      let (gx, rar) ← sendRarStr sid gx
      let gxs := Function.update p.gx gxSid (some gx)
      match rar with
      -- `OGS_ERROR`, with the result code of success
      | none => some (⟨gxs, dropped⟩, strAnswer erDiameterSuccess, none)
      | some names => some (⟨gxs, dropped⟩, erDiameterSuccess, some names)

/-! ## Sessions that are terminated -/

/-- The entry of an Rx session -/
def entryOf (gx : GxSess maxNumOfFlow) (sid : CString) : Option (RxEntry maxNumOfFlow) :=
  gx.rxList.find? fun entry => entry.sid == sid

/-- The Gx session without an Rx session -/
def without (gx : GxSess maxNumOfFlow) (sid : CString) : GxSess maxNumOfFlow :=
  { gx with rxList := gx.rxList.eraseP fun entry => entry.sid == sid }

/-- The names of the rules of an Rx session -/
def ruleNames (entry : RxEntry maxNumOfFlow) : List CString :=
  entry.pccRule.filterMap fun pccRule => pccRule.name

/-- The names of the rules of a Gx session -/
def usedRules (gx : GxSess maxNumOfFlow) : List CString := gx.rxList.flatMap ruleNames

/-- The answer is a success, the Rx session and its entry are gone and nothing else is, and those
of its rules are removed that no other Rx session has. -/
structure Terminated (p p' : PcrfContext maxNumOfFlow) (sid gxSid : CString)
    (gx : GxSess maxNumOfFlow) (code : UInt32) (rar : Option (List CString)) : Prop where
  answered : code = erDiameterSuccess
  ended : p'.rx = Function.update p.rx sid none
  kept : p'.gx = Function.update p.gx gxSid (some (without gx sid))
  removed : ∀ name, name ∈ rar.getD [] ↔
    (∃ entry, entryOf gx sid = some entry ∧ name ∈ ruleNames entry) ∧
      name ∉ usedRules (without gx sid)

def Terminates (p : PcrfContext maxNumOfFlow) (sid gxSid : CString) (known : Bool)
    (gx : GxSess maxNumOfFlow) : Prop :=
  ∃ p' code rar, strCb sid known p = some (p', code, rar) ∧ Terminated p p' sid gxSid gx code rar

/-- The Rx session has rules, all with names that no other Rx session has, and the Gx session has a
peer; or the Rx session was aborted, and has no entry. -/
def Terminable (rx : RxSess) (gx : GxSess maxNumOfFlow) (sid : CString) : Prop :=
  (rx.aborted = true ∧ entryOf gx sid = none) ∨
  (rx.aborted = false ∧ gx.peerHost.isSome = true ∧ ∃ entry, entryOf gx sid = some entry ∧
    entry.pccRule ≠ [] ∧ ∀ pccRule ∈ entry.pccRule, ∃ name, pccRule.name = some name ∧
      name ∉ usedRules (without gx sid))

/-! ## The branch of `pcrf_gx_send_rar` -/

section
variable {gx gx' : GxSess maxNumOfFlow} {sid gxSid : CString} {entry : RxEntry maxNumOfFlow}
  {rar : Option (List CString)} {rx : RxSess} {p : PcrfContext maxNumOfFlow} {known : Bool}

/-- The names of rules that all have one -/
theorem mapM_name {rules : List (PccRule maxNumOfFlow)} {names : List CString} :
    rules.mapM (fun pccRule => pccRule.name) = some names ↔
      (∀ pccRule ∈ rules, pccRule.name.isSome = true) ∧
        rules.filterMap (fun pccRule => pccRule.name) = names := by
  induction rules generalizing names with
  | nil => simp
  | cons pccRule rules ih =>
    rw [List.mapM_cons, Option.bind_eq_bind, Option.bind_eq_some_iff, List.forall_mem_cons]
    constructor
    · rintro ⟨name, hname, h⟩
      obtain ⟨names', hnames', h⟩ := Option.bind_eq_some_iff.mp h
      cases h
      obtain ⟨hsome, rfl⟩ := ih.mp hnames'
      exact ⟨⟨by rw [hname, Option.isSome_some], hsome⟩, List.filterMap_cons_some hname⟩
    · rintro ⟨⟨hhead, hsome⟩, rfl⟩
      obtain ⟨name, hname⟩ := Option.isSome_iff_exists.mp hhead
      refine ⟨name, hname, Option.bind_eq_some_iff.mpr ⟨_, ih.mpr ⟨hsome, rfl⟩, ?_⟩⟩
      rw [List.filterMap_cons_some hname]
      rfl

theorem ruleNames_eq_nil_iff (h : ∀ pccRule ∈ entry.pccRule, pccRule.name.isSome = true) :
    ruleNames entry = [] ↔ entry.pccRule = [] := by
  rw [ruleNames, List.filterMap_eq_nil_iff]
  constructor
  · intro hnone
    rw [List.eq_nil_iff_forall_not_mem]
    intro pccRule hpccRule
    have hsome := h pccRule hpccRule
    rw [hnone pccRule hpccRule] at hsome
    cases hsome
  · intro hnil pccRule hpccRule
    rw [hnil] at hpccRule
    cases hpccRule

/-- It returns for an Rx session that has an entry, whose rules have names. There is a
Re-Auth-Request if there are rules. -/
theorem sendRarStr_iff : sendRarStr sid gx = some (gx', rar) ↔
    ∃ entry, entryOf gx sid = some entry ∧
      (∀ pccRule ∈ entry.pccRule, pccRule.name.isSome = true) ∧ gx' = without gx sid ∧
      ((entry.pccRule = [] ∧ rar = none) ∨
        (entry.pccRule ≠ [] ∧ gx.peerHost.isSome = true ∧ rar = some (ruleNames entry))) := by
  have hsplit : sendRarStr sid gx = (entryOf gx sid).bind fun entry =>
      (entry.pccRule.mapM PccRule.name).bind fun names =>
        if names = [] then some (without gx sid, none)
        else gx.peerHost.bind fun _ => some (without gx sid, some names) := rfl
  rw [hsplit, Option.bind_eq_some_iff]
  refine exists_congr fun entry => and_congr_right fun _ => ?_
  rw [Option.bind_eq_some_iff]
  constructor
  · rintro ⟨names, hnames, h⟩
    obtain ⟨hsome, hnames⟩ := mapM_name.mp hnames
    obtain rfl : ruleNames entry = names := hnames
    refine ⟨hsome, ?_⟩
    by_cases hnil : ruleNames entry = []
    · rw [if_pos hnil] at h
      cases h
      exact ⟨rfl, .inl ⟨(ruleNames_eq_nil_iff hsome).mp hnil, rfl⟩⟩
    · rw [if_neg hnil] at h
      obtain ⟨peerHost, hpeer, h⟩ := Option.bind_eq_some_iff.mp h
      cases h
      have hhost : gx.peerHost = some peerHost := hpeer
      refine ⟨rfl, .inr ⟨fun h => hnil ((ruleNames_eq_nil_iff hsome).mpr h), ?_, rfl⟩⟩
      rw [hhost, Option.isSome_some]
  · rintro ⟨hsome, rfl, h⟩
    refine ⟨ruleNames entry, mapM_name.mpr ⟨hsome, rfl⟩, ?_⟩
    rcases h with ⟨hnil, rfl⟩ | ⟨hrules, hhost, rfl⟩
    · rw [if_pos ((ruleNames_eq_nil_iff hsome).mpr hnil)]
    · rw [if_neg fun h => hrules ((ruleNames_eq_nil_iff hsome).mp h)]
      obtain ⟨peerHost, hpeer⟩ := Option.isSome_iff_exists.mp hhost
      exact Option.bind_eq_some_iff.mpr ⟨peerHost, hpeer, rfl⟩

/-! ## The handler -/

theorem strAnswer_ne_success (code : UInt32) : strAnswer code ≠ erDiameterSuccess := by
  unfold strAnswer
  split_ifs <;> decide

theorem without_eq_self (h : entryOf gx sid = none) : without gx sid = gx := by
  have herase : gx.rxList.eraseP (fun entry => entry.sid == sid) = gx.rxList :=
    List.eraseP_of_forall_not fun entry hentry hsid =>
      List.find?_eq_none.mp h entry hentry hsid
  rw [without, herase]

theorem without_ne_self {entry : RxEntry maxNumOfFlow} (h : entryOf gx sid = some entry) :
    without gx sid ≠ gx := by
  intro heq
  have hlist : gx.rxList.eraseP (fun entry => entry.sid == sid) = gx.rxList :=
    congrArg GxSess.rxList heq
  have hlength := List.length_eraseP_of_mem (List.mem_of_find?_eq_some h) (List.find?_some h)
  have hpos := List.length_pos_of_mem (List.mem_of_find?_eq_some h)
  rw [hlist] at hlength
  omega

/-- An Rx session that was aborted is dropped. -/
theorem terminates_aborted (hrx : p.rx sid = some rx) (hbound : rx.gxSid = some gxSid)
    (hgx : p.gx gxSid = some gx) (haborted : rx.aborted = true) :
    Terminates p sid gxSid known gx ↔ entryOf gx sid = none := by
  have hstr : strCb sid known p =
      some ({ p with rx := Function.update p.rx sid none }, erDiameterSuccess, none) := by
    simp [strCb, hrx, hbound, haborted]
  constructor
  · rintro ⟨p', code, rar, h, hterminated⟩
    cases hstr.symm.trans h
    have hkept : gx = without gx sid := by
      have hupdated := congrFun hterminated.kept gxSid
      rw [Function.update_self] at hupdated
      exact Option.some.inj (hgx.symm.trans hupdated)
    by_contra hentry
    obtain ⟨entry, hentry⟩ := Option.ne_none_iff_exists'.mp hentry
    exact without_ne_self hentry hkept.symm
  · intro hentry
    refine ⟨_, _, _, hstr, rfl, rfl, ?_, fun name => ?_⟩
    · rw [without_eq_self hentry]
      exact (Function.update_eq_self_iff.mpr hgx.symm).symm
    · simp [hentry]

/-- What the handler does for an Rx session that was not aborted -/
theorem strCb_open (hrx : p.rx sid = some rx) (hbound : rx.gxSid = some gxSid)
    (hgx : p.gx gxSid = some gx) (hopen : rx.aborted = false) {p' : PcrfContext maxNumOfFlow}
    {code : UInt32} : strCb sid known p = some (p', code, rar) ↔
      ∃ gx', sendRarStr sid gx = some (gx', rar) ∧
        p' = ⟨Function.update p.gx gxSid (some gx'), Function.update p.rx sid none⟩ ∧
        code = if rar.isSome then erDiameterSuccess else strAnswer erDiameterSuccess := by
  have hstr : strCb sid known p = (sendRarStr sid gx).bind fun r =>
      match r.2 with
      | none => some (⟨Function.update p.gx gxSid (some r.1), Function.update p.rx sid none⟩,
          strAnswer erDiameterSuccess, none)
      | some names => some (⟨Function.update p.gx gxSid (some r.1),
          Function.update p.rx sid none⟩, erDiameterSuccess, some names) := by
    simp [strCb, hrx, hbound, hopen, hgx]
  rw [hstr, Option.bind_eq_some_iff]
  constructor
  · rintro ⟨⟨gx', rar'⟩, hsend, h⟩
    cases rar' with
    | none =>
      cases h
      exact ⟨gx', hsend, rfl, rfl⟩
    | some names =>
      cases h
      exact ⟨gx', hsend, rfl, rfl⟩
  · rintro ⟨gx', hsend, rfl, rfl⟩
    cases rar with
    | none => exact ⟨⟨gx', none⟩, hsend, rfl⟩
    | some names => exact ⟨⟨gx', some names⟩, hsend, rfl⟩

theorem terminates_open (hrx : p.rx sid = some rx) (hbound : rx.gxSid = some gxSid)
    (hgx : p.gx gxSid = some gx) (hopen : rx.aborted = false) :
    Terminates p sid gxSid known gx ↔ gx.peerHost.isSome = true ∧
      ∃ entry, entryOf gx sid = some entry ∧ entry.pccRule ≠ [] ∧
        ∀ pccRule ∈ entry.pccRule, ∃ name, pccRule.name = some name ∧
          name ∉ usedRules (without gx sid) := by
  constructor
  · rintro ⟨p', code, rar, h, hterminated⟩
    obtain ⟨gx', hsend, rfl, rfl⟩ := (strCb_open hrx hbound hgx hopen).mp h
    obtain ⟨entry, hentry, hsome, rfl, ⟨-, rfl⟩ | ⟨hrules, hhost, rfl⟩⟩ := sendRarStr_iff.mp hsend
    · exact absurd hterminated.answered (strAnswer_ne_success erDiameterSuccess)
    · refine ⟨hhost, entry, hentry, hrules, fun pccRule hpccRule => ?_⟩
      obtain ⟨name, hname⟩ := Option.isSome_iff_exists.mp (hsome pccRule hpccRule)
      have hmem : name ∈ ruleNames entry := List.mem_filterMap.mpr ⟨pccRule, hpccRule, hname⟩
      exact ⟨name, hname, ((hterminated.removed name).mp hmem).2⟩
  · rintro ⟨hhost, entry, hentry, hrules, hnames⟩
    have hsend : sendRarStr sid gx = some (without gx sid, some (ruleNames entry)) := by
      refine sendRarStr_iff.mpr ⟨entry, hentry, fun pccRule hpccRule => ?_, rfl,
        .inr ⟨hrules, hhost, rfl⟩⟩
      obtain ⟨name, hname, -⟩ := hnames pccRule hpccRule
      rw [hname, Option.isSome_some]
    refine ⟨_, _, _, (strCb_open hrx hbound hgx hopen).mpr ⟨_, hsend, rfl, rfl⟩, rfl, rfl, rfl, ?_⟩
    intro name
    rw [hentry, Option.getD_some]
    constructor
    · intro hmem
      obtain ⟨pccRule, hpccRule, hname⟩ := List.mem_filterMap.mp hmem
      obtain ⟨name', hname', hunused⟩ := hnames pccRule hpccRule
      cases hname.symm.trans hname'
      exact ⟨⟨entry, rfl, hmem⟩, hunused⟩
    · rintro ⟨⟨entry', hentry', hmem⟩, -⟩
      cases hentry'
      exact hmem

/-! ## The handler in a run -/

section
variable {env : PcrfEnv maxNumOfFlow} {s : PcrfSystem maxNumOfFlow} {thread : Nat}

/-- What a thread does alone, up to a state in which it has nothing to do. -/
def RunsTo (env : PcrfEnv maxNumOfFlow) (thread : Nat) (s s' : PcrfSystem maxNumOfFlow) : Prop :=
  ∃ trace : List ((Nat × PcrfEvent) × Option (PcrfSystem maxNumOfFlow)),
    Lts.Trace (Step env) (some s) trace ∧ (∀ step ∈ trace, step.1.1 = thread) ∧
      Lts.finalState (some s) trace = some s' ∧ s'.running thread = none

/-- One step of the thread, and what it does then. -/
theorem RunsTo.cons {event : PcrfEvent} {s₁ s' : PcrfSystem maxNumOfFlow}
    (hexec : exec env s thread event = some s₁) (henabled : Enabled s thread event)
    (h : RunsTo env thread s₁ s') : RunsTo env thread s s' := by
  obtain ⟨trace, htrace, hthread, hfinal, hidle⟩ := h
  refine ⟨((thread, event), some s₁) :: trace, trace_cons thread event hexec henabled htrace, ?_,
    hfinal, hidle⟩
  rw [List.forall_mem_cons]
  exact ⟨rfl, hthread⟩

theorem RunsTo.nil (h : s.running thread = none) : RunsTo env thread s s :=
  ⟨[], .nil _, List.forall_mem_nil _, rfl, h⟩

/-- A handler goes on. -/
theorem RunsTo.next {handler : PcrfHandler maxNumOfFlow} {p : PcrfContext maxNumOfFlow}
    {next : Option (PcrfHandler maxNumOfFlow)} {rars : List CString}
    {s' : PcrfSystem maxNumOfFlow} (hrunning : s.running thread = some handler)
    (hgoOn : goOn env s.stored handler = some (p, next, rars))
    (h : RunsTo env thread ⟨p, Function.update s.running thread next, rars ++ s.outstanding⟩ s') :
    RunsTo env thread s s' := by
  have hexec : exec env s thread .next =
      some ⟨p, Function.update s.running thread next, rars ++ s.outstanding⟩ := by
    simp [exec, hrunning, hgoOn]
  have henabled : Enabled s thread .next := by
    rw [Enabled, hrunning]
    rfl
  exact .cons hexec henabled h

/-- The last step of the handler -/
theorem runsTo_strEnd (hrunning : s.running thread = some (.strEnd sid)) :
    ∃ s', RunsTo env thread s s' ∧ s'.stored = s.stored :=
  ⟨_, .next hrunning rfl (.nil (Function.update_self ..)), rfl⟩

/-- The handler does what its steps do when no other thread comes between them. -/
theorem strCb_runsTo {p' : PcrfContext maxNumOfFlow} {code : UInt32}
    (hidle : s.running thread = none) (h : strCb sid known s.stored = some (p', code, rar)) :
    ∃ s', RunsTo env thread s s' ∧ s'.stored = p' := by
  obtain ⟨rx, hrx, h⟩ := Option.bind_eq_some_iff.mp h
  obtain ⟨gxSid, hbound, h⟩ := Option.bind_eq_some_iff.mp h
  let dropped := Function.update s.stored.rx sid none
  have hbegin : exec env s thread (.str sid) = some ⟨⟨s.stored.gx, dropped⟩,
      Function.update s.running thread (some (.str sid rx)), s.outstanding⟩ := by
    simp [exec, begin, hrx, hbound, dropped]
  have hends (gxs : CString → Option (GxSess maxNumOfFlow)) (rars : List CString)
      (hgoOn : goOn env ⟨s.stored.gx, dropped⟩ (.str sid rx) =
        some (⟨gxs, dropped⟩, some (.strEnd sid), rars)) :
      ∃ s', RunsTo env thread s s' ∧ s'.stored = ⟨gxs, dropped⟩ := by
    let sent : PcrfSystem maxNumOfFlow := ⟨⟨gxs, dropped⟩, Function.update
      (Function.update s.running thread (some (.str sid rx))) thread (some (.strEnd sid)),
      rars ++ s.outstanding⟩
    have hend : sent.running thread = some (.strEnd sid) := Function.update_self ..
    obtain ⟨s', hruns, hstored⟩ : ∃ s', RunsTo env thread sent s' ∧ s'.stored = sent.stored :=
      runsTo_strEnd hend
    exact ⟨s', .cons hbegin hidle (.next (Function.update_self ..) hgoOn hruns), hstored⟩
  cases haborted : rx.aborted with
  | true =>
    rw [if_pos haborted] at h
    cases h
    exact hends s.stored.gx [] (by simp [goOn, hbound, haborted])
  | false =>
    rw [if_neg (by rw [haborted]; decide)] at h
    cases hgx : s.stored.gx gxSid with
    | none =>
      rw [hgx] at h
      cases h
      exact hends s.stored.gx [] (by simp [goOn, hbound, haborted, hgx])
    | some gx =>
      have hstr : strCb sid known s.stored = some (p', code, rar) := by
        simpa [strCb, hrx, hbound, haborted] using h
      obtain ⟨gx', hsend, rfl, -⟩ := (strCb_open hrx hbound hgx haborted).mp hstr
      let taken := Function.update s.stored.gx gxSid none
      have hstore : store taken gxSid gx' =
          some (Function.update s.stored.gx gxSid (some gx')) := by
        simp [store, taken]
      have htakes : goOn env ⟨s.stored.gx, dropped⟩ (.str sid rx) =
          some (⟨taken, dropped⟩, some (.strRar sid rx gxSid gx), []) := by
        simp [goOn, hbound, haborted, hgx, taken]
      have hsends : goOn env ⟨taken, dropped⟩ (.strRar sid rx gxSid gx) =
          some (⟨Function.update s.stored.gx gxSid (some gx'), dropped⟩, some (.strEnd sid),
            if rar.isSome then [gxSid] else []) := by
        simp [goOn, hsend, hstore]
      exact ⟨_, .cons hbegin hidle (.next (Function.update_self ..) htakes
        (.next (Function.update_self ..) hsends (.next (Function.update_self ..) rfl
          (.nil (Function.update_self ..))))), rfl⟩

end

/-- In a state of which the books are right, only the rules of the Rx session matter. -/
theorem terminable_iff_of_sound {gxs : CString → GxSess maxNumOfFlow → Prop}
    {rxs : CString → RxSess → Prop} (h : Sound gxs rxs) (hgx : gxs gxSid gx)
    (hopen : rx.aborted = false) :
    Terminable rx gx sid ↔ ∃ entry, entryOf gx sid = some entry ∧ ruleNames entry ≠ [] ∧
      ∀ name ∈ ruleNames entry, name ∉ usedRules (without gx sid) := by
  unfold Terminable
  rw [hopen]
  simp only [Bool.false_eq_true, false_and, false_or, true_and, h.gxHost gxSid gx hgx]
  refine exists_congr fun entry => and_congr_right fun hentry => ?_
  obtain ⟨names, hnames⟩ :=
    (h.single gxSid gx hgx entry (List.mem_of_find?_eq_some hentry)).names
  have hsome := (mapM_name.mp hnames).1
  refine and_congr (not_congr (ruleNames_eq_nil_iff hsome).symm) ?_
  constructor
  · intro hunused name hname
    obtain ⟨pccRule, hpccRule, hname⟩ := List.mem_filterMap.mp hname
    obtain ⟨name', hname', hnot⟩ := hunused pccRule hpccRule
    cases hname.symm.trans hname'
    exact hnot
  · intro hunused pccRule hpccRule
    obtain ⟨name, hname⟩ := Option.isSome_iff_exists.mp (hsome pccRule hpccRule)
    exact ⟨name, hname, hunused name (List.mem_filterMap.mpr ⟨pccRule, hpccRule, hname⟩)⟩

end

end Pcrf

open Pcrf

/-- An Rx session is terminated as it should be if and only if it has rules, all of them with names
that no other Rx session of its Gx session has, and the Gx session has a peer, or it was aborted
and has no entry. -/
theorem strCb_terminates_iff {maxNumOfFlow : Nat} {p : PcrfContext maxNumOfFlow}
    {sid gxSid : CString} {known : Bool} {rx : RxSess} {gx : GxSess maxNumOfFlow}
    (hrx : p.rx sid = some rx) (hbound : rx.gxSid = some gxSid) (hgx : p.gx gxSid = some gx) :
    Terminates p sid gxSid known gx ↔ Terminable rx gx sid := by
  unfold Terminable
  cases haborted : rx.aborted with
  | true =>
    rw [terminates_aborted hrx hbound hgx haborted]
    simp
  | false =>
    rw [terminates_open hrx hbound hgx haborted]
    simp

/-- In every state that the PCRF comes to while its books are kept, with any number of threads, an
Rx session that was not aborted has an entry, and the handler of its Session-Termination-Request runs
to its end when no other thread comes between its steps. The Rx session is terminated as it should be
if and only if it has rules and no other Rx session has one of the same name. -/
theorem strCb_in_run {maxNumOfFlow : Nat} {env : PcrfEnv maxNumOfFlow}
    {s t : PcrfSystem maxNumOfFlow} {thread : Nat} {sid gxSid : CString} {rx : RxSess}
    {gx : GxSess maxNumOfFlow} (known : Bool) (hinitial : Initial s)
    (hreaches : Lts.Reaches (Lts.Restrict (Guard env) (Step env)) (some s) (some t))
    (hidle : t.running thread = none) (hrx : t.stored.rx sid = some rx)
    (hbound : rx.gxSid = some gxSid) (hopen : rx.aborted = false)
    (hgx : t.stored.gx gxSid = some gx) :
    ∃ entry t' code rar, entryOf gx sid = some entry ∧ RunsTo env thread t t' ∧
      strCb sid known t.stored = some (t'.stored, code, rar) ∧
        (Terminated t.stored t'.stored sid gxSid gx code rar ↔
          ruleNames entry ≠ [] ∧ ∀ name ∈ ruleNames entry, name ∉ usedRules (without gx sid)) := by
  obtain ⟨system, hsystem, hinv⟩ :=
    hreaches.invariant (fun _ _ _ hs hst => step_inv hs hst) ⟨s, rfl, hinitial.inv⟩
  cases hsystem
  have halive : GxAlive t gxSid gx := Or.inl hgx
  have hmem : sid ∈ sids gx :=
    (hinv.sound.entry _ _ _ halive).mpr ⟨rx, Or.inl hrx, hbound, hopen⟩
  obtain ⟨gx', rar, hsend, -⟩ := sendRarStr_ok (hinv.sound.gxHost _ _ halive)
    (hinv.sound.single _ _ halive) hmem
  obtain ⟨entry, hentry, -⟩ := sendRarStr_iff.mp hsend
  obtain ⟨p', code, hstr⟩ : ∃ p' code, strCb sid known t.stored = some (p', code, rar) :=
    ⟨_, _, (strCb_open hrx hbound hgx hopen).mpr ⟨gx', hsend, rfl, rfl⟩⟩
  obtain ⟨t', hruns, rfl⟩ : ∃ t', RunsTo env thread t t' ∧ t'.stored = p' :=
    strCb_runsTo hidle hstr
  refine ⟨entry, t', code, rar, hentry, hruns, hstr, ?_⟩
  have hterminable : Terminates t.stored sid gxSid known gx ↔ Terminable rx gx sid := by
    rw [terminates_open hrx hbound hgx hopen]
    simp [Terminable, hopen]
  have hrules : Terminable rx gx sid ↔ ∃ entry, entryOf gx sid = some entry ∧
      ruleNames entry ≠ [] ∧ ∀ name ∈ ruleNames entry, name ∉ usedRules (without gx sid) :=
    terminable_iff_of_sound hinv.sound halive hopen
  constructor
  · intro hterminated
    obtain ⟨entry', hentry', h⟩ := hrules.mp (hterminable.mp ⟨_, _, _, hstr, hterminated⟩)
    cases hentry.symm.trans hentry'
    exact h
  · intro h
    obtain ⟨p', code, rar', hstr', hterminated⟩ :=
      hterminable.mpr (hrules.mpr ⟨entry, hentry, h⟩)
    cases hstr.symm.trans hstr'
    exact hterminated

/-- A call is set up by one thread and terminated by another one. -/
theorem strCb_in_run_call : ∃ (t t' : PcrfSystem 4) (gx : GxSess 4) (code : UInt32)
    (rar : Option (List CString)), t.stored.gx gxSid = some gx ∧ RunsTo voice 1 t t' ∧
      strCb rxSid true t.stored = some (t'.stored, code, rar) ∧
        Terminated t.stored t'.stored rxSid gxSid gx code rar := by
  obtain ⟨trace, t, rx, gx, htrace, hfinal, hidle, hrx, hbound, hopen, hgx, hentry⟩ :
      ∃ (trace : List ((Nat × PcrfEvent) × Option (PcrfSystem 4))) (t : PcrfSystem 4)
        (rx : RxSess) (gx : GxSess 4),
        Lts.Trace (Lts.Restrict (Guard voice) (Step voice)) (some attached) trace ∧
        Lts.finalState (some attached) trace = some t ∧ t.running 1 = none ∧
        t.stored.rx rxSid = some rx ∧ rx.gxSid = some gxSid ∧ rx.aborted = false ∧
        t.stored.gx gxSid = some gx ∧ ∃ entry, entryOf gx rxSid = some entry ∧
          ruleNames entry ≠ [] ∧ ∀ name ∈ ruleNames entry, name ∉ usedRules (without gx rxSid) := by
    refine ⟨_, _, _, _, guarded_cons 0 (.aar rxSid none (some gxSid) (request mediaTypeAudio)) rfl
        ⟨rfl, request_wellFormed _⟩ ⟨rfl, fun _ _ h => nomatch h⟩
      (guarded_cons 0 .next rfl rfl ?_
      (guarded_cons 0 .next rfl rfl ?_
      (guarded_cons 0 .next rfl rfl ?_ (.nil _)))), rfl, rfl, rfl, rfl, rfl, rfl, _, rfl, ?_, ?_⟩
    · rintro _ ⟨⟩
      exact ⟨(@Rx.decodeAar_iff 4 _ none (request_wellFormed _).1).mp ⟨_, rfl⟩, nofun⟩
    · rintro _ ⟨⟩
      exact ⟨Or.inl rfl, rfl, voice_accepted _ rfl⟩
    · rintro _ ⟨⟩
      trivial
    · decide
    · decide
  have hreaches := htrace.reaches_final
  rw [hfinal] at hreaches
  obtain ⟨entry, t', code, rar, hfound, hruns, hstr, hiff⟩ :=
    strCb_in_run true attached_initial hreaches hidle hrx hbound hopen hgx
  obtain ⟨entry', hfound', hrules⟩ := hentry
  obtain rfl : entry = entry' := Option.some.inj (hfound.symm.trans hfound')
  exact ⟨t, t', gx, code, rar, hgx, hruns, hstr, hiff.mpr hrules⟩

/-- After one AA-Request with a media component -/
theorem strCb_terminates_voice : ∃ p₁ rar₁ gx,
    aarCb voice rxSid (some gxSid) true (aar [component mediaTypeAudio [permitOut1]])
      (started idle) = some (p₁, erDiameterSuccess, rar₁) ∧
    p₁.gx gxSid = some gx ∧ Terminates p₁ rxSid gxSid true gx := by
  refine ⟨_, _, _, rfl, rfl, (strCb_terminates_iff rfl rfl rfl).mpr (.inr ⟨rfl, rfl, _, rfl, ?_⟩)⟩
  decide

/-- An AA-Request without a media component is accepted, and its Rx session has no rules. The answer
to the Session-Termination-Request is not a success. -/
theorem not_terminates_without_rules : ∃ p₁ gx,
    aarCb voice rxSid (some gxSid) true (aar []) (started idle) =
      some (p₁, erDiameterSuccess, none) ∧
    (∃ rx, p₁.rx rxSid = some rx ∧ rx.gxSid = some gxSid) ∧ p₁.gx gxSid = some gx ∧
    ¬Terminates p₁ rxSid gxSid true gx := by
  refine ⟨_, _, rfl, ⟨_, rfl, rfl⟩, rfl, fun h => ?_⟩
  obtain ⟨-, entry, hentry, hrules, -⟩ := (terminates_open rfl rfl rfl rfl).mp h
  cases hentry
  exact hrules rfl

end NextEpc

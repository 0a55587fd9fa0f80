import NextEpc.Pcrf.Bookkeeping

/-!
# The states of sessions, and their handlers

What the handlers have taken, what they need to go on, and the invariant. A state that a handler
has taken counts as the one that it would store.
-/

namespace NextEpc

namespace Pcrf
open Custody (Alive Exclusive Replaced)

variable {maxNumOfFlow : Nat}

/-! ## What the handlers have -/

/-- The Gx session that a handler has taken. -/
def heldGx : PcrfHandler maxNumOfFlow → Option (CString × Option (GxSess maxNumOfFlow))
  | .aarRar _ _ _ gxSid _ gx => some (gxSid, some gx)
  | .strRar _ _ gxSid gx => some (gxSid, some gx)
  | .ccrUpdate gxSid gx => some (gxSid, some gx)
  | .ccrTerminate gxSid gx => some (gxSid, some gx)
  | .ccrAsr gxSid gx _ _ => some (gxSid, some gx)
  | .raa gxSid gx => some (gxSid, some gx)
  | _ => none

/-- The Rx session that a handler has taken. A new one is not there yet, and one that will be
cleaned up is not there any more. -/
def heldRx : PcrfHandler maxNumOfFlow → Option (CString × Option RxSess)
  | .aar sid rx isNew _ _ => some (sid, if isNew then none else some rx)
  | .aarRar sid rx isNew _ _ _ => some (sid, if isNew then none else some rx)
  | .aarEnd sid rx => some (sid, rx)
  | .str sid rx => some (sid, some rx)
  | .strRar sid rx _ _ => some (sid, some rx)
  | .strEnd sid => some (sid, none)
  | .ccrAsr _ _ sid rx => some (sid, some rx)
  | _ => none

def gxHeld (s : PcrfSystem maxNumOfFlow) (thread : Nat) :
    Option (CString × Option (GxSess maxNumOfFlow)) :=
  (s.running thread).bind heldGx

def rxHeld (s : PcrfSystem maxNumOfFlow) (thread : Nat) : Option (CString × Option RxSess) :=
  (s.running thread).bind heldRx

def GxAlive (s : PcrfSystem maxNumOfFlow) : CString → GxSess maxNumOfFlow → Prop :=
  Alive s.stored.gx (gxHeld s)

def RxAlive (s : PcrfSystem maxNumOfFlow) : CString → RxSess → Prop :=
  Alive s.stored.rx (rxHeld s)

/-! ## The condition -/

/-- Every component of a request can be bound to a rule of the subscriber. -/
def Accepted (env : PcrfEnv maxNumOfFlow) (sid : CString) (gx : GxSess maxNumOfFlow)
    (cs : List (MediaComponent maxNumOfFlow)) : Prop :=
  ∃ db, subscriberRules env gx = some db ∧ ∀ c ∈ bound cs, Bindable db (rxRules gx sid) c

/-- A Credit-Control-Request has, or its session has, an IMSI and an APN of a subscriber. -/
def Served (env : PcrfEnv maxNumOfFlow) (msg : CcrMessage) (gx : GxSess maxNumOfFlow) : Prop :=
  msg.subscriptionId ≠ some none ∧ ∃ imsiBcd apn,
    (msg.subscriptionId.join <|> gx.imsiBcd) = some imsiBcd ∧
    (msg.calledStationId <|> gx.apn) = some apn ∧ (env.qosData imsiBcd apn).isSome

/-- What a handler needs to go on. -/
def GoesOn (env : PcrfEnv maxNumOfFlow) (p : PcrfContext maxNumOfFlow) :
    PcrfHandler maxNumOfFlow → Prop
  | .aar _ rx isNew none _ => isNew = true ∨ rx.aborted = true
  | .aar _ rx isNew (some gxSid) avps => Rx.AarFits maxNumOfFlow avps ∧
      (p.gx gxSid = none → isNew = true ∨ rx.aborted = true)
  | .aarRar sid rx _ gxSid msg gx => (rx.gxSid = none ∨ rx.gxSid = some gxSid) ∧
      rx.aborted = false ∧ Accepted env sid gx msg.mediaComponent
  | .str _ rx => rx.aborted = true ∨ ∃ gxSid, rx.gxSid = some gxSid ∧ (p.gx gxSid).isSome
  | .ccrTerminate _ gx => ∀ entry ∈ gx.rxList.head?, (p.rx entry.sid).isSome
  | _ => True

/-- What a message needs to be handled. -/
def Allowed (env : PcrfEnv maxNumOfFlow) (s : PcrfSystem maxNumOfFlow) (thread : Nat) :
    PcrfEvent → Prop
  | .aar sid framedIpv6PrefixLen _ _ => framedIpv6PrefixLen.all (· == 128) = true ∧
      ∀ thread o, rxHeld s thread ≠ some (sid, o)
  | .str sid => (s.stored.rx sid).isSome
  | .ccrUpdate gxSid msg =>
      (s.stored.gx gxSid).isSome → msg.framedIpv6PrefixLen.all (· == 128) = true
  | .ccrTerminate gxSid msg => ∀ gx, s.stored.gx gxSid = some gx →
      msg.framedIpv6PrefixLen.all (· == 128) = true ∧ (Served env msg gx ∨ gx.rxList = [])
  | .raa gxSid => (s.stored.gx gxSid).isSome
  | .next => ∀ handler, s.running thread = some handler → GoesOn env s.stored handler

/-! ## The invariant -/

/-- What is known of the data of a handler. -/
def HandlerSound : PcrfHandler maxNumOfFlow → Prop
  | .aar _ rx isNew _ avps => (isNew = true → rx = ⟨none, none, false⟩) ∧ WellFormedAar avps
  | .aarRar _ _ _ _ msg _ => msg.peerHost.isSome
  | .strRar _ rx gxSid _ => rx.gxSid = some gxSid ∧ rx.aborted = false
  | .ccrAsr _ gx sid _ => ∃ entry rest, gx.rxList = entry :: rest ∧ entry.sid = sid
  | _ => True

/-- No state is taken twice, and the books are kept. -/
structure Inv (s : PcrfSystem maxNumOfFlow) : Prop where
  gx : Exclusive s.stored.gx (gxHeld s)
  rx : Exclusive s.stored.rx (rxHeld s)
  sound : Sound (GxAlive s) (RxAlive s)
  handlers : ∀ thread handler, s.running thread = some handler → HandlerSound handler

theorem Initial.inv {s : PcrfSystem maxNumOfFlow} (h : Initial s) : Inv s := by
  have hgx : gxHeld s = fun _ => none := funext fun thread => by simp [gxHeld, h.running thread]
  have hrx : rxHeld s = fun _ => none := funext fun thread => by simp [rxHeld, h.running thread]
  have hnorx (sid : CString) (state : RxSess) : ¬RxAlive s sid state := by
    rw [RxAlive, hrx]
    rintro (hstored | ⟨_, hheld⟩)
    · cases (h.rx sid).symm.trans hstored
    · cases hheld
  have hgxAlive (gxSid : CString) (state : GxSess maxNumOfFlow) (halive : GxAlive s gxSid state) :
      state.rxList = [] ∧ state.peerHost.isSome := by
    rw [GxAlive, hgx] at halive
    rcases halive with hstored | ⟨_, hheld⟩
    · exact h.gx gxSid state hstored
    · cases hheld
  refine ⟨?_, ?_, ⟨⟨?_, ?_, ?_⟩, ?_, ?_, ?_⟩, ?_⟩
  · rw [hgx]
    exact ⟨fun _ _ _ h => (nomatch h), fun _ _ _ _ _ h => (nomatch h)⟩
  · rw [hrx]
    exact ⟨fun _ _ _ h => (nomatch h), fun _ _ _ _ _ h => (nomatch h)⟩
  · intro gxSid state halive
    rw [sids, (hgxAlive gxSid state halive).1]
    exact List.nodup_nil
  · intro gxSid state sid halive
    rw [sids, (hgxAlive gxSid state halive).1]
    apply iff_of_false List.not_mem_nil
    rintro ⟨state', halive', -⟩
    exact hnorx sid state' halive'
  · rintro gxSid sid ⟨state, halive, -⟩
    exact absurd halive (hnorx sid state)
  · exact fun gxSid state halive => (hgxAlive gxSid state halive).2
  · intro gxSid state halive
    rw [(hgxAlive gxSid state halive).1]
    simp
  · exact fun sid state halive => absurd halive (hnorx sid state)
  · intro thread handler hrunning
    cases (h.running thread).symm.trans hrunning

/-! ## What the handlers compute -/

section
variable {env : PcrfEnv maxNumOfFlow} {gx : GxSess maxNumOfFlow} {sid : CString}
  {rxList : List (RxEntry maxNumOfFlow)}

/-- The entry of an Rx session is written into the list. -/
theorem findOrAdd_entry (rxList : List (RxEntry maxNumOfFlow)) (sid : CString) :
    ∃ entry, (findOrAdd rxList sid).1[(findOrAdd rxList sid).2]? = some entry ∧
      ∀ rules rxList', rxList' = (findOrAdd rxList sid).1.set (findOrAdd rxList sid).2
          { entry with pccRule := rules } →
        (rxList'.map (·.sid) = if sid ∈ rxList.map (·.sid) then rxList.map (·.sid)
          else rxList.map (·.sid) ++ [sid]) ∧
        ∀ entry' ∈ rxList', entry'.pccRule = rules ∨ entry' ∈ rxList := by
  unfold findOrAdd
  split
  · rename_i j hj
    obtain ⟨hlt, hget, -⟩ := List.findIdx?_eq_some_iff_getElem.mp hj
    have hsid : rxList[j].sid = sid := by simpa using hget
    have hmem : sid ∈ rxList.map (·.sid) := List.mem_map.mpr ⟨_, List.getElem_mem hlt, hsid⟩
    refine ⟨rxList[j], List.getElem?_eq_getElem hlt, ?_⟩
    rintro rules _ rfl
    refine ⟨?_, fun entry' hentry' => ?_⟩
    · rw [if_pos hmem, List.map_set]
      apply set_of_getElem?
      rw [List.getElem?_map, List.getElem?_eq_getElem hlt]
      rfl
    · rcases List.mem_or_eq_of_mem_set hentry' with hold | rfl
      · exact Or.inr hold
      · exact Or.inl rfl
  · rename_i hnone
    have hnot : sid ∉ rxList.map (·.sid) := by
      rintro hmem
      obtain ⟨entry, hentry, hsid⟩ := List.mem_map.mp hmem
      have hnot := List.findIdx?_eq_none_iff.mp hnone entry hentry
      simp [hsid] at hnot
    refine ⟨⟨sid, []⟩, List.getElem?_concat_length, ?_⟩
    rintro rules _ rfl
    refine ⟨?_, fun entry' hentry' => ?_⟩
    · rw [if_neg hnot, List.set_append_right _ _ le_rfl, Nat.sub_self, List.map_append]
      rfl
    · rw [List.set_append_right _ _ le_rfl, Nat.sub_self] at hentry'
      rcases List.mem_append.mp hentry' with hold | hnew
      · exact Or.inr hold
      · cases List.mem_singleton.mp hnew
        exact Or.inl rfl

/-- A request that can be bound is accepted, and its Rx session is in the list. -/
theorem sendRarAa_accepted {cs : List (MediaComponent maxNumOfFlow)} (hhost : gx.peerHost.isSome)
    (hsingle : ∀ entry ∈ gx.rxList, Single entry.pccRule) (h : Accepted env sid gx cs) :
    ∃ gx' rar, sendRarAa env sid cs gx = some (gx', rar, erDiameterSuccess) ∧
      (sids gx' = if sid ∈ sids gx then sids gx else sids gx ++ [sid]) ∧
      gx'.peerHost = gx.peerHost ∧ ∀ entry ∈ gx'.rxList, Single entry.pccRule := by
  obtain ⟨db, hdb, hbindable⟩ := h
  obtain ⟨imsiBcd, himsi, hdb⟩ := Option.bind_eq_some_iff.mp hdb
  obtain ⟨apn, hapn, hdb⟩ := Option.bind_eq_some_iff.mp hdb
  obtain ⟨entry, hentry, hset⟩ := findOrAdd_entry gx.rxList sid
  obtain ⟨-, hrules, -⟩ := findOrAdd_spec hentry
  have hrule : Single (rxRules gx sid) := by
    rw [rxRules]
    cases hfind : gx.rxList.find? fun entry => entry.sid == sid with
    | none => exact Or.inl rfl
    | some entry => exact hsingle entry (List.mem_of_find?_eq_some hfind)
  obtain ⟨st, hbind, hst⟩ := @bindComponents_bindable _ env.share db cs ⟨rxRules gx sid, []⟩
    hrule hbindable
  rw [rxRules, ← hrules] at hbind
  obtain ⟨hsids, hentries⟩ := hset st.pccRule _ rfl
  obtain ⟨peerHost, hpeer⟩ := Option.isSome_iff_exists.mp hhost
  let gx' : GxSess maxNumOfFlow := { gx with
    rxList := (findOrAdd gx.rxList sid).1.set (findOrAdd gx.rxList sid).2
      { entry with pccRule := st.pccRule } }
  have hsend : ∃ rar, sendRarAa env sid cs gx = some (gx', rar, erDiameterSuccess) := by
    rw [sendRarAa]
    simp only [hentry, himsi, hapn, hdb, hbind, Option.bind_eq_bind, Option.bind_some]
    by_cases hnil : st.install = []
    · exact ⟨none, by rw [if_pos hnil, ← himsi, ← hapn]⟩
    · refine ⟨some st.install, ?_⟩
      rw [if_neg hnil, ← himsi, ← hapn]
      exact Option.bind_eq_some_iff.mpr ⟨peerHost, hpeer, rfl⟩
  obtain ⟨rar, hsend⟩ := hsend
  refine ⟨gx', rar, hsend, hsids, rfl, fun entry' hentry' => ?_⟩
  rcases hentries entry' hentry' with hnew | hold
  · rw [hnew]
    exact hst
  · exact hsingle entry' hold

/-- The rules of an Rx session in the list are removed, and its entry is. -/
theorem sendRarStr_ok (hhost : gx.peerHost.isSome)
    (hsingle : ∀ entry ∈ gx.rxList, Single entry.pccRule) (h : sid ∈ sids gx) :
    ∃ gx' rar, sendRarStr sid gx = some (gx', rar) ∧ sids gx' = (sids gx).erase sid ∧
      gx'.peerHost = gx.peerHost ∧ ∀ entry ∈ gx'.rxList, Single entry.pccRule := by
  obtain ⟨entry, hentry, hsid⟩ := List.mem_map.mp h
  have hsome : (gx.rxList.find? fun entry => entry.sid == sid).isSome :=
    List.find?_isSome.mpr ⟨entry, hentry, by simpa using hsid⟩
  obtain ⟨entry, hfind⟩ := Option.isSome_iff_exists.mp hsome
  obtain ⟨names, hnames⟩ := (hsingle entry (List.mem_of_find?_eq_some hfind)).names
  obtain ⟨peerHost, hpeer⟩ := Option.isSome_iff_exists.mp hhost
  have hsids (l : List (RxEntry maxNumOfFlow)) :
      (l.eraseP fun entry => entry.sid == sid).map (·.sid) = (l.map (·.sid)).erase sid := by
    induction l with
    | nil => rfl
    | cons entry l ih =>
      by_cases heq : entry.sid = sid
      · simp [heq]
      · have hne : (entry.sid == sid) = false := by simpa using heq
        rw [List.eraseP_cons_of_neg (by simp [hne]), List.map_cons, List.map_cons, ih,
          List.erase_cons_tail (by simp [hne])]
  let gx' : GxSess maxNumOfFlow := { gx with
    rxList := gx.rxList.eraseP fun entry => entry.sid == sid }
  have hsend : ∃ rar, sendRarStr sid gx = some (gx', rar) := by
    rw [sendRarStr, hfind]
    simp only [hnames, Option.bind_eq_bind, Option.bind_some]
    by_cases hnil : names = []
    · exact ⟨none, by rw [if_pos hnil]⟩
    · refine ⟨some names, ?_⟩
      rw [if_neg hnil]
      exact Option.bind_eq_some_iff.mpr ⟨peerHost, hpeer, rfl⟩
  obtain ⟨rar, hsend⟩ := hsend
  exact ⟨gx', rar, hsend, hsids gx.rxList, rfl,
    fun entry' hentry' => hsingle entry' (List.mem_of_mem_eraseP hentry')⟩

/-- A Credit-Control-Request keeps the list. -/
theorem readCcr_kept (env : PcrfEnv maxNumOfFlow) (msg : CcrMessage) (gx : GxSess maxNumOfFlow) :
    (readCcr env msg gx).1.rxList = gx.rxList ∧ (readCcr env msg gx).1.peerHost.isSome := by
  unfold readCcr
  dsimp only
  repeat' split
  all_goals exact ⟨rfl, rfl⟩

theorem readCcr_served {msg : CcrMessage} (h : Served env msg gx) :
    (readCcr env msg gx).2 = true := by
  obtain ⟨hsubscription, imsiBcd, apn, himsi, hapn, hqos⟩ := h
  unfold readCcr
  dsimp only
  split
  · rename_i heq
    exact absurd heq hsubscription
  · simp only [himsi, hapn]
    exact hqos

end

/-- The Session-Id of a request is taken for the host of the peer. -/
theorem decodeAar_peerHost {peerHost : Option CString} {avps : List Avp}
    {msg : RxMessage maxNumOfFlow} (hsid : ∃ avp ∈ avps, avp.model.code = Rx.acSessionId)
    (h : Rx.decodeAar maxNumOfFlow peerHost avps = some msg) : msg.peerHost.isSome := by
  have hround (msg msg' : RxMessage maxNumOfFlow) (avp : Avp)
      (hmember : Rx.decodeAarMember msg avp = some msg')
      (hhost : msg.peerHost.isSome ∨ avp.model.code = Rx.acSessionId) : msg'.peerHost.isSome := by
    rw [Rx.decodeAarMember] at hmember
    split at hmember
    · obtain ⟨data, -, rfl⟩ := Option.map_eq_some_iff.mp hmember
      rfl
    · rename_i hcode
      have hhost := hhost.resolve_right fun h => hcode (Or.inl h)
      split at hmember
      · rw [Rx.decodeMediaComponent] at hmember
        split at hmember
        · obtain ⟨c, -, hc⟩ := Option.bind_eq_some_iff.mp hmember
          cases hc
          exact hhost
        · cases hmember
      · cases hmember
        exact hhost
  have hloop (avps : List Avp) (msg₀ : RxMessage maxNumOfFlow)
      (hhost : msg₀.peerHost.isSome ∨ ∃ avp ∈ avps, avp.model.code = Rx.acSessionId)
      (hfold : avps.foldlM Rx.decodeAarMember msg₀ = some msg) : msg.peerHost.isSome := by
    induction avps generalizing msg₀ with
    | nil =>
      cases hfold
      rcases hhost with hhost | ⟨avp, hmem, -⟩
      · exact hhost
      · cases hmem
    | cons avp avps ih =>
      rw [List.foldlM_cons, Option.bind_eq_bind, Option.bind_eq_some_iff] at hfold
      obtain ⟨msg₁, hmsg₁, hfold⟩ := hfold
      refine ih msg₁ ?_ hfold
      rcases hhost with hhost | ⟨avp', hmem, hcode⟩
      · exact Or.inl (hround msg₀ msg₁ avp hmsg₁ (Or.inl hhost))
      · rcases List.mem_cons.mp hmem with rfl | hmem
        · exact Or.inl (hround msg₀ msg₁ avp' hmsg₁ (Or.inr hcode))
        · exact Or.inr ⟨avp', hmem, hcode⟩
  exact hloop avps _ (Or.inr hsid) h

end Pcrf

end NextEpc

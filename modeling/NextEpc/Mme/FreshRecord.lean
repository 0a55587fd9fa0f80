import NextEpc.Lib.Trace
import NextEpc.Mme.Records

/-!
# New records

What a new record has from the one that was in its slot before: the fields that are not
written when a record is added and not cleared when one is removed. A new record is as in a pool
that was never used exactly if these fields of its slot are as they were at the start.
-/

namespace NextEpc

/-! ## What is left in a slot -/

/-- The fields of a UE that are neither written by `mme_ue_add` nor cleared by `mme_ue_remove`
are those of a pool that was never used. -/
structure MmeUeRecord.Unset (m : MmeUeRecord) : Prop where
  nasEps : m.nasEps = ⟨0, 0⟩
  imsi : m.imsi = []
  imsiBcd : m.imsiBcd = []
  nasMobileIdentityImsi : m.nasMobileIdentityImsi = []
  pTmsi : m.pTmsi = 0
  gutiPresent : m.gutiPresent = false
  sgwS11Teid : m.sgwS11Teid = 0
  location : m.location = .blank
  lastVisitedPlmnId : m.lastVisitedPlmnId = []
  security : m.security = .blank
  subscription : m.subscription = .blank
  ebi : m.ebi = 0
  pathSwitchCounter : m.pathSwitchCounter = ⟨0, 0⟩
  handoverNotifyCounter : m.handoverNotifyCounter = ⟨0, 0⟩
  sessionContextWillDeleted : m.sessionContextWillDeleted = false

structure EnbUeRecord.Unset (m : EnbUeRecord) : Prop where
  handoverType : m.handoverType = 0
  sourceUe : m.sourceUe = none
  targetUe : m.targetUe = none
  saved : m.saved = .blank
  ueCtxRelAction : m.ueCtxRelAction = 0

structure MmeSessRecord.Unset (m : MmeSessRecord) : Prop where
  requestType : m.requestType = 0
  pdn : m.pdn = none

structure MmeBearerRecord.Unset (m : MmeBearerRecord) : Prop where
  enbS1u : m.enbS1u = .blank
  sgwS1u : m.sgwS1u = .blank
  targetS1u : m.targetS1u = .blank
  enbDl : m.enbDl = .blank
  enbUl : m.enbUl = .blank
  sgwDl : m.sgwDl = .blank
  sgwUl : m.sgwUl = .blank
  qos : m.qos = MmeBearerRecord.blank.qos
  xact : m.xact = none

/-- A record in a cleared slot is new exactly if nothing else is left in the slot. -/
theorem MmeUeRecord.add_eq_iff {m : MmeUeRecord} {mmeS11Teid : UInt32} {mTmsi : Nat}
    {guti : OgsNasGuti} {gnode : Nat} (hclear : m.clear = m) :
    m.add mmeS11Teid mTmsi guti gnode = MmeUeRecord.blank.add mmeS11Teid mTmsi guti gnode ↔
      m.Unset := by
  constructor
  · intro h
    rw [add, add, MmeUeRecord.mk.injEq] at h
    constructor <;> tauto
  · intro h
    rw [← hclear]
    cases m
    cases h
    simp_all [add, clear, blank]

theorem EnbUeRecord.add_eq_iff {m : EnbUeRecord} {enb : MmeEnbId} {mmeUeS1apId : UInt32}
    {enbOstreamId : UInt16} (hclear : m.clear = m) :
    m.add enb mmeUeS1apId enbOstreamId = EnbUeRecord.blank.add enb mmeUeS1apId enbOstreamId ↔
      m.Unset := by
  constructor
  · intro h
    rw [add, add, EnbUeRecord.mk.injEq] at h
    constructor <;> tauto
  · intro h
    rw [← hclear]
    cases m
    cases h
    simp_all [add, clear, blank]

theorem MmeSessRecord.add_eq_iff {m : MmeSessRecord} {mmeUe : MmeUeId} {pti : UInt8}
    {list : List MmeBearerId} (hclear : m.clear = m) :
    { m.add mmeUe pti with bearerList := list } =
        { MmeSessRecord.blank.add mmeUe pti with bearerList := list } ↔ m.Unset := by
  constructor
  · intro h
    rw [add, add, MmeSessRecord.mk.injEq] at h
    constructor <;> tauto
  · intro h
    rw [← hclear]
    cases m
    cases h
    simp_all [add, clear, blank]

theorem MmeBearerRecord.add_eq_iff {m : MmeBearerRecord} {ebi : UInt8} {mmeUe : MmeUeId}
    {sess : MmeSessId} (hclear : m.clear = m) :
    m.add ebi mmeUe sess = MmeBearerRecord.blank.add ebi mmeUe sess ↔ m.Unset := by
  constructor
  · intro h
    rw [add, add, MmeBearerRecord.mk.injEq] at h
    constructor <;> tauto
  · intro h
    rw [← hclear]
    cases m
    cases h
    simp_all [add, clear, blank]

namespace MmeRecords
variable {s t : MmeRecords} {op : Op}

/-- What a new record is compared with: the record that the same call gives in a slot that was
never used. -/
def FreshAfter : Op × MmeRecords → Prop
  | (.enbUeAdd enbUe enb mmeUeS1apId enbOstreamId, t) =>
    t.enbUes.mem enbUe = EnbUeRecord.blank.add enb mmeUeS1apId enbOstreamId
  | (.mmeUeAdd mmeUe mTmsi guti gnode, t) =>
    t.mmeUes.mem mmeUe = MmeUeRecord.blank.add (UInt32.ofNat mmeUe) mTmsi guti gnode
  | (.mmeSessAdd sess bearer mmeUe pti, t) =>
    t.sesss.mem sess = { MmeSessRecord.blank.add mmeUe pti with bearerList := [bearer] } ∧
      t.bearers.mem bearer = MmeBearerRecord.blank.add (t.bearers.mem bearer).ebi mmeUe sess
  | (.mmeBearerAdd bearer sess, t) =>
    t.bearers.mem bearer =
      MmeBearerRecord.blank.add (t.bearers.mem bearer).ebi (t.sesss.mem sess).mmeUe sess
  | _ => True

/-- Nothing is left in the slots of the records that are added. -/
def SlotUnset (s : MmeRecords) : Op → Prop
  | .enbUeAdd enbUe _ _ _ => (s.enbUes.mem enbUe).Unset
  | .mmeUeAdd mmeUe _ _ _ => (s.mmeUes.mem mmeUe).Unset
  | .mmeSessAdd sess bearer _ _ => (s.sesss.mem sess).Unset ∧ (s.bearers.mem bearer).Unset
  | .mmeBearerAdd bearer _ => (s.bearers.mem bearer).Unset
  | _ => True

/-! ## Free slots are cleared -/

/-- What the removal of a record clears stays so until the slot is given out. -/
structure Cleared (s : MmeRecords) : Prop where
  mmeUes : s.mmeUes.Cleared MmeUeRecord.clear
  enbUes : s.enbUes.Cleared EnbUeRecord.clear
  sesss : s.sesss.Cleared MmeSessRecord.clear
  bearers : s.bearers.Cleared MmeBearerRecord.clear

theorem cleared_initial : initial.Cleared := by
  constructor <;> exact fun _ _ => rfl

/-- Writing a list, or the last identity, changes nothing that is cleared. -/
theorem clear_bearerList {m : MmeSessRecord} (h : m.clear = m) (l : List MmeBearerId) :
    MmeSessRecord.clear { m with bearerList := l } = { m with bearerList := l } :=
  congrArg (fun m' : MmeSessRecord => { m' with bearerList := l }) h

theorem clear_sessList {m : MmeUeRecord} (h : m.clear = m) (l : List MmeSessId) :
    MmeUeRecord.clear { m with sessList := l } = { m with sessList := l } :=
  congrArg (fun m' : MmeUeRecord => { m' with sessList := l }) h

theorem clear_ebi {m : MmeUeRecord} (h : m.clear = m) (ebi : UInt8) :
    MmeUeRecord.clear { m with ebi := ebi } = { m with ebi := ebi } :=
  congrArg (fun m' : MmeUeRecord => { m' with ebi := ebi }) h

theorem Cleared.bearerRemove (h : s.Cleared) (bearer : MmeBearerId) :
    (s.mmeBearerRemove bearer).Cleared := by
  constructor
  · exact h.mmeUes
  · exact h.enbUes
  · rw [sesss_mmeBearerRemove]
    exact h.sesss.modify_of_comm _ fun m hm => clear_bearerList hm _
  · exact h.bearers.remove (fun _ => rfl) bearer

theorem mmeUes_foldl_mmeBearerRemove (l : List MmeBearerId) (s : MmeRecords) :
    (l.foldl mmeBearerRemove s).mmeUes = s.mmeUes := by
  induction l generalizing s with
  | nil => rfl
  | cons bearer l ih => exact ih (s.mmeBearerRemove bearer)

theorem Cleared.foldl_bearerRemove (l : List MmeBearerId) (h : s.Cleared) :
    (l.foldl mmeBearerRemove s).Cleared := by
  induction l generalizing s with
  | nil => exact h
  | cons bearer l ih => exact ih (h.bearerRemove bearer)

theorem Cleared.sessRemove (h : s.Cleared) (sess : MmeSessId) : (s.mmeSessRemove sess).Cleared := by
  have hunlinked : { s with mmeUes := s.mmeUes.modify (s.sesss.mem sess).mmeUe fun m =>
      { m with sessList := m.sessList.erase sess } }.Cleared :=
    ⟨h.mmeUes.modify_of_comm _ fun m hm => clear_sessList hm _, h.enbUes, h.sesss, h.bearers⟩
  have hremoved := hunlinked.foldl_bearerRemove (s.sesss.mem sess).bearerList
  exact ⟨hremoved.mmeUes, hremoved.enbUes, hremoved.sesss.remove (fun _ => rfl) sess,
    hremoved.bearers⟩

theorem mmeUes_mmeSessRemove (sess : MmeSessId) : (s.mmeSessRemove sess).mmeUes =
    s.mmeUes.modify (s.sesss.mem sess).mmeUe fun m =>
      { m with sessList := m.sessList.erase sess } := by
  rw [mmeSessRemove, mmeBearerRemoveAll]
  exact mmeUes_foldl_mmeBearerRemove _ _

/-- The removal of the sessions of a UE keeps what was cleared in its record. -/
theorem Cleared.foldl_sessRemove (l : List MmeSessId) (mmeUe : MmeUeId) (h : s.Cleared)
    (hue : (s.mmeUes.mem mmeUe).clear = s.mmeUes.mem mmeUe) :
    (l.foldl mmeSessRemove s).Cleared ∧
      ((l.foldl mmeSessRemove s).mmeUes.mem mmeUe).clear =
        (l.foldl mmeSessRemove s).mmeUes.mem mmeUe := by
  induction l generalizing s with
  | nil => exact ⟨h, hue⟩
  | cons sess l ih =>
    apply ih (h.sessRemove sess)
    rw [mmeUes_mmeSessRemove, Pool.mem_modify]
    split
    · rename_i heq
      rw [← heq]
      exact clear_sessList hue _
    · exact hue

theorem Cleared.ueRemove (h : s.Cleared) {mmeUe : MmeUeId} (hlive : s.mmeUes.live mmeUe = true) :
    (s.mmeUeRemove mmeUe).Cleared := by
  have hcleared : { s with mmeUes := s.mmeUes.modify mmeUe MmeUeRecord.clear }.Cleared :=
    ⟨h.mmeUes.modify hlive _, h.enbUes, h.sesss, h.bearers⟩
  have hremoved := hcleared.foldl_sessRemove
    (((s.mmeUes.modify mmeUe MmeUeRecord.clear).mem mmeUe).sessList) mmeUe (by simp; rfl)
  exact ⟨hremoved.1.mmeUes.free hremoved.2, hremoved.1.enbUes, hremoved.1.sesss,
    hremoved.1.bearers⟩

section
variable [Ogslib]

theorem Cleared.bearerAdd (h : s.Cleared) (bearer : MmeBearerId) (sess : MmeSessId) :
    (s.mmeBearerAdd bearer sess).Cleared := by
  constructor
  · rw [mmeUes_mmeBearerAdd]
    exact h.mmeUes.modify_of_comm _ fun m hm => clear_ebi hm _
  · exact h.enbUes
  · rw [sesss_mmeBearerAdd]
    exact h.sesss.modify_of_comm _ fun m hm => clear_bearerList hm _
  · rw [bearers_mmeBearerAdd]
    exact h.bearers.add bearer _

theorem Cleared.sessAdd (h : s.Cleared) (sess : MmeSessId) (bearer : MmeBearerId)
    (mmeUe : MmeUeId) (pti : UInt8) : (s.mmeSessAdd sess bearer mmeUe pti).Cleared := by
  have hadded : { s with
      sesss := (s.sesss.alloc sess).modify sess fun m => m.add mmeUe pti }.Cleared :=
    ⟨h.mmeUes, h.enbUes, h.sesss.add sess fun m => m.add mmeUe pti, h.bearers⟩
  have hbearer := hadded.bearerAdd bearer sess
  exact ⟨hbearer.mmeUes.modify_of_comm _ fun m hm => clear_sessList hm _, hbearer.enbUes,
    hbearer.sesss, hbearer.bearers⟩

theorem Cleared.step (h : s.Cleared) (hstep : Step s op t) : t.Cleared := by
  obtain ⟨hadmits, rfl⟩ := hstep
  cases op with
  | enbUeAdd enbUe enb mmeUeS1apId enbOstreamId =>
    exact ⟨h.mmeUes, h.enbUes.add enbUe fun m => m.add enb mmeUeS1apId enbOstreamId, h.sesss,
      h.bearers⟩
  | enbUeRemove enbUe =>
    exact ⟨h.mmeUes, h.enbUes.remove (fun _ => rfl) enbUe, h.sesss, h.bearers⟩
  | mmeUeAdd mmeUe mTmsi guti gnode =>
    exact ⟨h.mmeUes.add mmeUe fun m => m.add (UInt32.ofNat mmeUe) mTmsi guti gnode, h.enbUes,
      h.sesss, h.bearers⟩
  | mmeUeRemove mmeUe => exact h.ueRemove hadmits
  | mmeSessAdd sess bearer mmeUe pti => exact h.sessAdd sess bearer mmeUe pti
  | mmeSessRemove sess => exact h.sessRemove sess
  | mmeBearerAdd bearer sess => exact h.bearerAdd bearer sess
  | mmeBearerRemove bearer => exact h.bearerRemove bearer
  | clearEpsBearerId mmeUe =>
    refine ⟨?_, h.enbUes, h.sesss, h.bearers⟩
    exact h.mmeUes.modify hadmits fun m => { m with ebi := minEpsBearerId - 1 }
  | setMmeUe mmeUe r =>
    refine ⟨?_, h.enbUes, h.sesss, h.bearers⟩
    exact h.mmeUes.modify hadmits fun m => { r with ebi := m.ebi, sessList := m.sessList }
  | setEnbUe enbUe r =>
    refine ⟨h.mmeUes, ?_, h.sesss, h.bearers⟩
    exact h.enbUes.modify hadmits fun _ => r
  | setSess sess r =>
    refine ⟨h.mmeUes, h.enbUes, ?_, h.bearers⟩
    exact h.sesss.modify hadmits fun m => { r with bearerList := m.bearerList, mmeUe := m.mmeUe }
  | setBearer bearer r =>
    refine ⟨h.mmeUes, h.enbUes, h.sesss, ?_⟩
    exact h.bearers.modify hadmits fun m =>
      { r with ebi := m.ebi, mmeUe := m.mmeUe, sess := m.sess }

/-! ## Runs -/

/-- A new record is as in a pool that was never used exactly if nothing is left in its slot. -/
theorem freshAfter_iff (h : s.Cleared) (hstep : Step s op t) :
    FreshAfter (op, t) ↔ s.SlotUnset op := by
  obtain ⟨hadmits, rfl⟩ := hstep
  cases op with
  | enbUeAdd enbUe enb mmeUeS1apId enbOstreamId =>
    have hmem : ((s.enbUeAdd enbUe enb mmeUeS1apId enbOstreamId).enbUes.mem enbUe) =
        (s.enbUes.mem enbUe).add enb mmeUeS1apId enbOstreamId := by simp [enbUeAdd]
    simp only [FreshAfter, apply, SlotUnset, hmem]
    exact EnbUeRecord.add_eq_iff (h.enbUes enbUe hadmits)
  | mmeUeAdd mmeUe mTmsi guti gnode =>
    have hmem : ((s.mmeUeAdd mmeUe mTmsi guti gnode).mmeUes.mem mmeUe) =
        (s.mmeUes.mem mmeUe).add (UInt32.ofNat mmeUe) mTmsi guti gnode := by simp [mmeUeAdd]
    simp only [FreshAfter, apply, SlotUnset, hmem]
    exact MmeUeRecord.add_eq_iff (h.mmeUes mmeUe hadmits)
  | mmeSessAdd sess bearer mmeUe pti =>
    have hsess : ((s.mmeSessAdd sess bearer mmeUe pti).sesss.mem sess) =
        { (s.sesss.mem sess).add mmeUe pti with bearerList := [bearer] } := by
      simp [mmeSessAdd, sesss_mmeBearerAdd, MmeSessRecord.add]
    have hbearer : ∃ ebi, ((s.mmeSessAdd sess bearer mmeUe pti).bearers.mem bearer) =
        (s.bearers.mem bearer).add ebi mmeUe sess :=
      ⟨nextEbi (s.mmeUes.mem mmeUe).ebi, by
        simp [mmeSessAdd, bearers_mmeBearerAdd, MmeSessRecord.add]⟩
    obtain ⟨ebi, hbearer⟩ := hbearer
    simp only [FreshAfter, apply, SlotUnset, hsess, hbearer]
    exact and_congr (MmeSessRecord.add_eq_iff (h.sesss sess hadmits.1))
      (MmeBearerRecord.add_eq_iff (h.bearers bearer hadmits.2.1))
  | mmeBearerAdd bearer sess =>
    have hsess : ((s.mmeBearerAdd bearer sess).sesss.mem sess).mmeUe =
        (s.sesss.mem sess).mmeUe := by simp [sesss_mmeBearerAdd]
    have hbearer : ((s.mmeBearerAdd bearer sess).bearers.mem bearer) =
        (s.bearers.mem bearer).add (nextEbi (s.mmeUes.mem (s.sesss.mem sess).mmeUe).ebi)
          (s.sesss.mem sess).mmeUe sess := by simp [bearers_mmeBearerAdd]
    simp only [FreshAfter, apply, SlotUnset, hsess, hbearer]
    exact MmeBearerRecord.add_eq_iff (h.bearers bearer hadmits.1)
  | _ => exact iff_of_true trivial trivial

/-- In every run all new records are as in a pool that was never used if and only if nothing is
left in the slots they get. -/
theorem freshAfter_run_iff (tr : List (Op × MmeRecords)) (htrace : Lts.Trace Step initial tr) :
    (∀ p ∈ tr, FreshAfter p) ↔ Lts.Trace (Lts.Restrict SlotUnset Step) initial tr := by
  apply Lts.Trace.labels_iff (J := Cleared) (P := FreshAfter) (C := SlotUnset)
  · intro s op t hs hstep
    exact hs.step hstep
  · intro s op t hs hstep
    exact freshAfter_iff hs hstep
  · exact htrace
  · exact cleared_initial

end

def sampleNewGuti : OgsNasGuti := ⟨Vector.replicate 3 0x11, 2, 1, 7⟩

/-- A UE is added, removed and added again in its slot, to which no handler wrote, and a session is
added. -/
theorem freshAfter_run_attach : ∃ tr : List (Op × MmeRecords), tr.map Prod.fst =
      [.mmeUeAdd 1 0 sampleNewGuti 0, .mmeUeRemove 1, .mmeUeAdd 1 1 sampleNewGuti 0,
        .mmeSessAdd 1 1 1 1] ∧
    ∀ p ∈ tr, FreshAfter p := by
  let _ := Ogslib.reference
  let added := initial.mmeUeAdd 1 0 sampleNewGuti 0
  let removed := added.mmeUeRemove 1
  let again := removed.mmeUeAdd 1 1 sampleNewGuti 0
  have hue : Step initial (.mmeUeAdd 1 0 sampleNewGuti 0) added := ⟨rfl, rfl⟩
  have hremove : Step added (.mmeUeRemove 1) removed := ⟨rfl, rfl⟩
  have hagain : Step removed (.mmeUeAdd 1 1 sampleNewGuti 0) again := ⟨rfl, rfl⟩
  have hsess : Step again (.mmeSessAdd 1 1 1 1) (again.mmeSessAdd 1 1 1 1) := ⟨⟨rfl, rfl, rfl⟩, rfl⟩
  have hunset : initial.SlotUnset (.mmeUeAdd 1 0 sampleNewGuti 0) := by
    constructor <;> rfl
  have hunsetAgain : removed.SlotUnset (.mmeUeAdd 1 1 sampleNewGuti 0) := by
    constructor <;> rfl
  have hunsetSess : again.SlotUnset (.mmeSessAdd 1 1 1 1) := by
    constructor <;> constructor <;> rfl
  refine ⟨_, rfl, (freshAfter_run_iff [(_, added), (_, removed), (_, again), (_, _)]
    (.cons hue (.cons hremove (.cons hagain (.cons hsess (.nil _)))))).mpr ?_⟩
  exact .cons ⟨hunset, hue⟩ (.cons ⟨trivial, hremove⟩
    (.cons ⟨hunsetAgain, hagain⟩ (.cons ⟨hunsetSess, hsess⟩ (.nil _))))

/-- A UE with an IMSI and a security context. -/
def registeredUe : MmeUeRecord :=
  { MmeUeRecord.blank with
    imsi := [0x00, 0x11, 0x01, 0x00, 0x00, 0x00, 0x00, 0xf1]
    security := { MmeUeSecurity.blank with securityContextAvailable := true, kasme := [0x5a] } }

def oneRegistered : MmeRecords := (initial.mmeUeAdd 1 0 sampleNewGuti 0).setMmeUe 1 registeredUe

theorem trace_slotReused (lib : Ogslib) : Lts.Trace Step initial
    [(.mmeUeAdd 1 0 sampleNewGuti 0, initial.mmeUeAdd 1 0 sampleNewGuti 0),
      (.setMmeUe 1 registeredUe, oneRegistered),
      (.mmeUeRemove 1, oneRegistered.mmeUeRemove 1),
      (.mmeUeAdd 1 0 sampleNewGuti 0,
        (oneRegistered.mmeUeRemove 1).mmeUeAdd 1 0 sampleNewGuti 0)] := by
  apply Lts.Trace.cons ⟨rfl, rfl⟩
  apply Lts.Trace.cons ⟨rfl, rfl⟩
  apply Lts.Trace.cons ⟨rfl, rfl⟩
  apply Lts.Trace.cons ⟨rfl, rfl⟩
  exact Lts.Trace.nil _

/-- A UE registers and is removed, and the next one gets its slot: it has the IMSI and the
security context of the first. -/
theorem freshAfter_slot_reused : ¬∀ (lib : Ogslib) (tr : List (Op × MmeRecords)),
    Lts.Trace (@Step lib) initial tr → ∀ p ∈ tr, FreshAfter p := by
  intro hclaim
  have hlast : ((oneRegistered.mmeUeRemove 1).mmeUeAdd 1 0 sampleNewGuti 0).mmeUes.mem 1 =
      MmeUeRecord.blank.add 1 0 sampleNewGuti 0 :=
    hclaim Ogslib.reference _ (trace_slotReused Ogslib.reference)
      (.mmeUeAdd 1 0 sampleNewGuti 0,
        (oneRegistered.mmeUeRemove 1).mmeUeAdd 1 0 sampleNewGuti 0) (by simp)
  have havailable := congrArg
    (fun m : MmeUeRecord => m.security.securityContextAvailable) hlast
  cases havailable

end MmeRecords
end NextEpc

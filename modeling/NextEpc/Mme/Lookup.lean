import NextEpc.Mme.MTmsi

/-!
# Lookups by IMSI, by GUTI and by eNB identity

An operation keeps the tables in agreement with the records if no other record has the key that
is set, if a record does not start with the keys of a former one, and if only an eNB that sent
an identity is removed from the table. The GUTIs rest on the M-TMSIs being unique.
-/

namespace NextEpc
namespace MmeTables
variable {s t : MmeTables} {ue : MmeUeId} {enb : MmeEnbId} {m : MTmsiId} {op : Op}

/-- The UE is in use and has an IMSI. -/
def HasImsi (s : MmeTables) (ue : MmeUeId) : Prop :=
  s.mmeUes.live ue = true ∧ (s.mmeUes.mem ue).imsiLen ≠ 0

/-- Where the IMSI of a UE is. -/
def imsiPlace (s : MmeTables) (ue : MmeUeId) : ImsiKey := (ue, (s.mmeUes.mem ue).imsiLen)

/-- The eNB is in use and has an identity. -/
def HasEnbId (s : MmeTables) (enb : MmeEnbId) : Prop :=
  s.enbs.live enb = true ∧ (s.enbs.mem enb).idSet = true

section
variable [OgsHash]

/-- A lookup finds a record exactly if it is in use and has the key. -/
structure LookupsAgree (s : MmeTables) : Prop where
  imsi : ∀ imsi ue, s.mmeUeFindByImsi imsi = some ue ↔
    s.HasImsi ue ∧ s.imsiKey (s.imsiPlace ue) = imsi
  guti : ∀ guti ue, s.mmeUeFindByGuti guti = some ue ↔
    s.mmeUes.live ue = true ∧ s.gutiKey ue = guti
  enbId : ∀ enbId enb, s.mmeEnbFindByEnbId enbId = some enb ↔
    s.HasEnbId enb ∧ s.enbIdKey enb = enbId

/-- When an operation keeps the tables in agreement with the records. An IMSI may be changed to
one of another length only if what the older entries of the record point to then does not have
the hash that they keep. -/
def KeepsTables (s : MmeTables) : Op → Prop
  | .mmeUeAdd ue m => s.KeepsMTmsi (.mmeUeAdd ue m) ∧ (s.mmeUes.mem ue).imsiLen = 0
  | .mmeUeSetImsi ue imsi =>
    (∀ v, v ≠ ue → s.HasImsi v → s.imsiKey (s.imsiPlace v) ≠ imsi) ∧
      ∀ e ∈ s.imsiUeHash, e.key.1 = ue → e.key.2 ≠ imsi.length →
        e.hash ≠ OgsHash.imsi ((overwrite (s.mmeUes.mem ue).imsi imsi).toList.take e.key.2)
  | .mmeEnbSetEnbId enb enbId => ∀ v, v ≠ enb → s.HasEnbId v → s.enbIdKey v ≠ enbId
  | .mmeEnbRemove enb =>
    (s.enbs.mem enb).idSet = true ∨ ∀ v, s.HasEnbId v → s.enbIdKey v ≠ s.enbIdKey enb
  | _ => True

/-- The invariant of the three tables. -/
structure TablesAgree (s : MmeTables) : Prop where
  imsi : KeyTable.Agrees s.imsiKey OgsHash.imsi Prod.fst s.HasImsi s.imsiPlace s.imsiUeHash
  guti : KeyTable.Agrees s.gutiKey OgsHash.guti id (fun ue => s.mmeUes.live ue = true) id
    s.gutiUeHash
  enbId : KeyTable.Agrees s.enbIdKey OgsHash.enbId id s.HasEnbId id s.enbIdHash

theorem TablesAgree.lookups (h : s.TablesAgree) : s.LookupsAgree := by
  constructor
  · intro imsi ue
    exact h.imsi.get_iff (KeyTable.isGet ..)
  · intro guti ue
    exact h.guti.get_iff (KeyTable.isGet ..)
  · intro enbId enb
    exact h.enbId.get_iff (KeyTable.isGet ..)

/-! ## The table of GUTIs -/

theorem gutiUeHash_removeGuti {old : MTmsiId} (h : (s.mmeUes.mem ue).mTmsi = some old) :
    (s.removeGuti ue).gutiUeHash =
      KeyTable.unset s.gutiKey OgsHash.guti s.gutiUeHash (s.gutiKey ue) := by
  rw [removeGuti, h]
  rfl

theorem mmeUeNewGuti_tables (h : s.mmeUeNewGuti ue m = .ok t) :
    t.gutiUeHash = KeyTable.set t.gutiKey OgsHash.guti (s.removeGuti ue).gutiUeHash ue ue ∧
      t.imsiUeHash = s.imsiUeHash ∧ t.enbIdHash = s.enbIdHash ∧ t.enbs = s.enbs := by
  obtain ⟨-, -, -, henbs, himsi, henbId⟩ := removeGuti_frame s ue
  obtain ⟨s', halloc, h⟩ := Fallible.bind_eq_ok.mp h
  obtain ⟨_, -, halloc⟩ := Fallible.bind_eq_ok.mp halloc
  cases halloc
  cases h
  exact ⟨rfl, himsi, henbId, henbs⟩

/-- A UE gets a GUTI that no other UE has, after its own was removed. -/
theorem guti_newGuti (hadd : s.mmeUeNewGuti ue m = .ok t) (ht : t.UniqueMTmsi)
    (hlive : s.mmeUes.live ue = true)
    (hguti : KeyTable.Agrees s.gutiKey OgsHash.guti id
      (fun v => v ≠ ue ∧ s.mmeUes.live v = true) id (s.removeGuti ue).gutiUeHash) :
    KeyTable.Agrees t.gutiKey OgsHash.guti id (fun v => t.mmeUes.live v = true) id
      t.gutiUeHash := by
  obtain ⟨-, -, -, -, hues⟩ := mmeUeNewGuti_ok hadd
  have hother : ∀ v, v ≠ ue → t.gutiKey v = s.gutiKey v := by
    intro v hv
    simp [gutiKey, hues, hv]
  have hnew : ∀ v, v ≠ ue → s.mmeUes.live v = true → s.gutiKey v ≠ t.gutiKey ue := by
    intro v hne hv heq
    rw [← hother v hne] at heq
    apply ht.values v ue _ _ hne (congrArg OgsNasGuti.mTmsi heq)
    · rw [hues]
      exact hv
    · rw [hues]
      exact hlive
  rw [(mmeUeNewGuti_tables hadd).1]
  apply (hguti.set t.gutiKey id ue hother (fun _ _ => rfl) (fun _ => rfl) rfl
    (fun e _ howner hkey => absurd howner hkey) (fun v hne hv => hnew v hne hv.2)
    (KeyTable.isSet ..)).congr
  · exact fun _ => rfl
  · intro v
    rw [hues, Pool.live_modify]
    by_cases hv : v = ue
    · subst hv
      simp [hlive]
    · simp [hv]
  · exact fun _ _ => rfl

/-- The GUTI of a UE in use is removed. -/
theorem TablesAgree.removeGuti {values : List UInt32} (h : s.TablesAgree)
    (hs : s.WellFormed values) (hlive : s.mmeUes.live ue = true) :
    KeyTable.Agrees s.gutiKey OgsHash.guti id (fun v => v ≠ ue ∧ s.mmeUes.live v = true) id
      (s.removeGuti ue).gutiUeHash := by
  obtain ⟨old, hold, -⟩ := hs.guti ue hlive
  rw [gutiUeHash_removeGuti hold]
  exact h.guti.unset hlive (KeyTable.isUnset ..)

/-! ## Operations -/

/-- The new M-TMSI leaves the other two tables alone. -/
theorem imsi_newGuti (hadd : s.mmeUeNewGuti ue m = .ok t)
    (h : KeyTable.Agrees s.imsiKey OgsHash.imsi Prod.fst s.HasImsi s.imsiPlace s.imsiUeHash) :
    KeyTable.Agrees t.imsiKey OgsHash.imsi Prod.fst t.HasImsi t.imsiPlace t.imsiUeHash := by
  obtain ⟨-, -, -, -, hues⟩ := mmeUeNewGuti_ok hadd
  have hmem : ∀ v, (t.mmeUes.mem v).imsi = (s.mmeUes.mem v).imsi ∧
      (t.mmeUes.mem v).imsiLen = (s.mmeUes.mem v).imsiLen := by
    intro v
    rw [hues, Pool.mem_modify]
    split
    · rename_i heq
      rw [heq]
      exact ⟨rfl, rfl⟩
    · exact ⟨rfl, rfl⟩
  rw [(mmeUeNewGuti_tables hadd).2.1]
  apply h.congr
  · intro key
    rw [imsiKey, imsiKey, (hmem key.1).1]
  · intro v
    rw [HasImsi, HasImsi, (hmem v).2, hues, Pool.live_modify]
  · intro v _
    rw [imsiPlace, imsiPlace, (hmem v).2]

theorem enbId_newGuti (hadd : s.mmeUeNewGuti ue m = .ok t)
    (h : KeyTable.Agrees s.enbIdKey OgsHash.enbId id s.HasEnbId id s.enbIdHash) :
    KeyTable.Agrees t.enbIdKey OgsHash.enbId id t.HasEnbId id t.enbIdHash := by
  obtain ⟨-, -, htable, henbs⟩ := mmeUeNewGuti_tables hadd
  rw [htable]
  apply h.congr
  · intro v
    rw [enbIdKey, enbIdKey, henbs]
  · intro v
    rw [HasEnbId, HasEnbId, henbs]
  · exact fun _ _ => rfl

theorem TablesAgree.newGuti {values : List UInt32} (h : s.TablesAgree) (hs : s.WellFormed values)
    (hlive : s.mmeUes.live ue = true) (hnew : s.mmeUeNewGuti ue m = .ok t)
    (ht : t.UniqueMTmsi) : t.TablesAgree :=
  ⟨imsi_newGuti hnew h.imsi, guti_newGuti hnew ht hlive (h.removeGuti hs hlive),
    enbId_newGuti hnew h.enbId⟩

theorem TablesAgree.add {values : List UInt32} (h : s.TablesAgree) (hs : s.WellFormed values)
    (hu : s.UniqueMTmsi) (hslot : s.mmeUes.live ue = false) (hadd : s.mmeUeAdd ue m = .ok t)
    (ht : t.UniqueMTmsi) (hkeeps : s.KeepsTables (.mmeUeAdd ue m)) : t.TablesAgree := by
  have hlive : ∀ v, v ≠ ue ∧ (s.allocMmeUe ue).mmeUes.live v = true ↔ s.mmeUes.live v = true := by
    intro v
    by_cases hv : v = ue
    · subst hv
      simp [hslot]
    · simp [hv]
  -- the GUTI that the slot still has is nobody's
  have hremove : KeyTable.Agrees s.gutiKey OgsHash.guti id (fun v => s.mmeUes.live v = true) id
      ((s.allocMmeUe ue).removeGuti ue).gutiUeHash := by
    cases hold : ((s.allocMmeUe ue).mmeUes.mem ue).mTmsi with
    | none =>
      rw [removeGuti_of_none hold]
      exact h.guti
    | some old =>
      rw [gutiUeHash_removeGuti hold]
      apply h.guti.unset_of_not _ (KeyTable.isUnset ..)
      intro v hv
      exfalso
      rcases hkeeps.1 with hnone | hfull
      · exact absurd (hold.symm.trans hnone) (by simp)
      · obtain ⟨n, hn, -⟩ := hs.guti v hv
        have huse : s.InUse n := (hu.owned.used_iff n).mpr ⟨v, hv, by simp [hn]⟩
        exact absurd hfull (Nat.not_le.mpr (length_lt_of_inUse hs.free hu.free huse))
  constructor
  · apply imsi_newGuti hadd
    apply h.imsi.congr
    · exact fun _ => rfl
    · intro v
      rw [HasImsi, HasImsi, mmeUes_allocMmeUe, Pool.live_alloc]
      by_cases hv : v = ue
      · subst hv
        simp [hkeeps.2]
      · simp [hv]
    · exact fun _ _ => rfl
  · apply guti_newGuti hadd ht (by simp)
    exact hremove.congr (fun _ => rfl) hlive fun _ _ => rfl
  · exact enbId_newGuti hadd (h.enbId.congr (fun _ => rfl) (fun _ => Iff.rfl) fun _ _ => rfl)

/-- The tables after a UE is removed. -/
theorem mmeUeRemove_tables (s : MmeTables) (ue : MmeUeId) :
    (s.mmeUeRemove ue).gutiUeHash = (s.removeGuti ue).gutiUeHash ∧
    (s.mmeUeRemove ue).imsiUeHash = (if (s.mmeUes.mem ue).imsiLen ≠ 0 then
      KeyTable.unset s.imsiKey OgsHash.imsi s.imsiUeHash (s.imsiKey (s.imsiPlace ue))
      else s.imsiUeHash) ∧
    (s.mmeUeRemove ue).enbIdHash = s.enbIdHash ∧ (s.mmeUeRemove ue).enbs = s.enbs := by
  obtain ⟨hues, -, -, henbs, himsi, henbId⟩ := removeGuti_frame s ue
  have hkey : (s.removeGuti ue).imsiKey = s.imsiKey := by
    funext key
    rw [imsiKey, imsiKey, hues]
  simp only [mmeUeRemove, hkey, himsi, hues, imsiPlace]
  split
  · exact ⟨rfl, rfl, henbId, henbs⟩
  · exact ⟨rfl, himsi, henbId, henbs⟩

theorem TablesAgree.remove {values : List UInt32} (h : s.TablesAgree) (hs : s.WellFormed values)
    (hlive : s.mmeUes.live ue = true) : (s.mmeUeRemove ue).TablesAgree := by
  obtain ⟨hguti, himsi, henbId, henbs⟩ := mmeUeRemove_tables s ue
  have hues := (mmeUeRemove_frame s ue).1
  have hmem : (s.mmeUeRemove ue).mmeUes.mem = s.mmeUes.mem := by rw [hues, Pool.mem_free]
  have hin : ∀ v, (s.mmeUeRemove ue).mmeUes.live v = true ↔ v ≠ ue ∧ s.mmeUes.live v = true := by
    intro v
    rw [hues, Pool.live_free]
    split <;> simp [*]
  have himsiKey : ∀ key, (s.mmeUeRemove ue).imsiKey key = s.imsiKey key := by
    intro key
    rw [imsiKey, imsiKey, hmem]
  have hplace : ∀ v, (s.mmeUeRemove ue).imsiPlace v = s.imsiPlace v := by
    intro v
    rw [imsiPlace, imsiPlace, hmem]
  constructor
  · rw [himsi]
    by_cases hlen : (s.mmeUes.mem ue).imsiLen = 0
    · rw [if_neg (not_not.mpr hlen)]
      apply h.imsi.congr himsiKey _ fun v _ => hplace v
      intro v
      rw [HasImsi, HasImsi, hin, hmem]
      by_cases hv : v = ue
      · subst hv
        simp [hlen]
      · simp [hv]
    · rw [if_pos hlen]
      apply (h.imsi.unset ⟨hlive, hlen⟩ (KeyTable.isUnset ..)).congr himsiKey _ fun v _ => hplace v
      intro v
      rw [HasImsi, HasImsi, hin, hmem, and_assoc]
  · rw [hguti]
    apply (h.removeGuti hs hlive).congr _ hin fun _ _ => rfl
    intro v
    rw [gutiKey, gutiKey, hmem]
  · rw [henbId]
    apply h.enbId.congr
    · intro v
      rw [enbIdKey, enbIdKey, henbs]
    · intro v
      rw [HasEnbId, HasEnbId, henbs]
    · exact fun _ _ => rfl

omit [OgsHash] in
/-- What the record then has as its IMSI. -/
theorem take_overwrite {imsi : Bytes} (old : Vector UInt8 maxImsiLen)
    (hlength : imsi.length ≤ maxImsiLen) :
    (overwrite old imsi).toList.take imsi.length = imsi := by
  apply List.ext_getElem
  · simp [hlength]
  · intro i hi hi'
    simp [overwrite, hi']

theorem TablesAgree.setImsi {imsi : Bytes} (h : s.TablesAgree) (hlive : s.mmeUes.live ue = true)
    (hne : imsi ≠ []) (hlength : imsi.length ≤ maxImsiLen)
    (hkeeps : s.KeepsTables (.mmeUeSetImsi ue imsi)) : (s.mmeUeSetImsi ue imsi).TablesAgree := by
  have hkey : ∀ key, (s.mmeUeSetImsi ue imsi).imsiKey key =
      if key.1 = ue then (overwrite (s.mmeUes.mem ue).imsi imsi).toList.take key.2
      else s.imsiKey key := by
    intro key
    simp only [imsiKey, mmeUeSetImsi, Pool.mem_modify]
    split <;> rfl
  have hplace : (s.mmeUeSetImsi ue imsi).imsiPlace ue = (ue, imsi.length) := by
    simp [imsiPlace, mmeUeSetImsi]
  have hnew : (s.mmeUeSetImsi ue imsi).imsiKey (ue, imsi.length) = imsi := by
    rw [hkey, if_pos rfl]
    exact take_overwrite _ hlength
  have hset := h.imsi.set (s.mmeUeSetImsi ue imsi).imsiKey (s.mmeUeSetImsi ue imsi).imsiPlace ue
    (fun key hkey' => (hkey key).trans (if_neg hkey'))
    (fun v hv => by simp [imsiPlace, mmeUeSetImsi, hv]) (fun _ => rfl) rfl
    (by
      intro e he howner hne hactive
      have hother : e.key.2 ≠ imsi.length := by
        intro heq
        apply hne
        rw [hplace, ← howner, ← heq]
      rw [KeyTable.Entry.Active, hkey, if_pos howner] at hactive
      exact hkeeps.2 e he howner hother hactive)
    (by
      intro v hv himsi
      rw [hplace, hnew]
      exact hkeeps.1 v hv himsi)
    (KeyTable.isSet ..)
  constructor
  · rw [hplace] at hset
    apply hset.congr (fun _ => rfl) _ fun _ _ => rfl
    intro v
    by_cases hv : v = ue
    · subst hv
      simp [HasImsi, mmeUeSetImsi, hlive, hne]
    · simp [HasImsi, mmeUeSetImsi, hv]
  · apply h.guti.congr _ (fun _ => Iff.rfl) fun _ _ => rfl
    intro v
    simp only [gutiKey, mmeUeSetImsi, Pool.mem_modify]
    split
    · rename_i heq
      rw [heq]
    · rfl
  · exact h.enbId.congr (fun _ => rfl) (fun _ => Iff.rfl) fun _ _ => rfl

theorem TablesAgree.enbAdd (h : s.TablesAgree) (hslot : s.enbs.live enb = false) :
    (s.mmeEnbAdd enb).TablesAgree := by
  constructor
  · exact h.imsi.congr (fun _ => rfl) (fun _ => Iff.rfl) fun _ _ => rfl
  · exact h.guti.congr (fun _ => rfl) (fun _ => Iff.rfl) fun _ _ => rfl
  · apply h.enbId.congr _ _ fun _ _ => rfl
    · intro v
      simp only [enbIdKey, mmeEnbAdd, Pool.mem_modify]
      split
      · rename_i heq
        rw [heq]
        rfl
      · rfl
    · intro v
      by_cases hv : v = enb
      · subst hv
        simp [HasEnbId, mmeEnbAdd, hslot]
      · simp [HasEnbId, mmeEnbAdd, hv]

theorem TablesAgree.setEnbId {enbId : UInt32} (h : s.TablesAgree)
    (hlive : s.enbs.live enb = true) (hkeeps : s.KeepsTables (.mmeEnbSetEnbId enb enbId)) :
    (s.mmeEnbSetEnbId enb enbId).TablesAgree := by
  have hkey : ∀ v, (s.mmeEnbSetEnbId enb enbId).enbIdKey v =
      if v = enb then enbId else s.enbIdKey v := by
    intro v
    simp only [enbIdKey, mmeEnbSetEnbId, Pool.mem_modify]
    split <;> rfl
  have hset := h.enbId.set (s.mmeEnbSetEnbId enb enbId).enbIdKey id enb
    (fun v hv => (hkey v).trans (if_neg hv)) (fun _ _ => rfl) (fun _ => rfl) rfl
    (fun e _ howner hne => absurd howner hne)
    (by
      intro v hv hid
      rw [id, id, hkey, if_pos rfl]
      exact hkeeps v hv hid)
    (KeyTable.isSet ..)
  constructor
  · exact h.imsi.congr (fun _ => rfl) (fun _ => Iff.rfl) fun _ _ => rfl
  · exact h.guti.congr (fun _ => rfl) (fun _ => Iff.rfl) fun _ _ => rfl
  · apply hset.congr (fun _ => rfl) _ fun _ _ => rfl
    intro v
    by_cases hv : v = enb
    · subst hv
      simp [HasEnbId, mmeEnbSetEnbId, hlive]
    · simp [HasEnbId, mmeEnbSetEnbId, hv]

theorem TablesAgree.enbRemove (h : s.TablesAgree) (hlive : s.enbs.live enb = true)
    (hkeeps : s.KeepsTables (.mmeEnbRemove enb)) : (s.mmeEnbRemove enb).TablesAgree := by
  have hin : ∀ v, (s.mmeEnbRemove enb).HasEnbId v ↔ v ≠ enb ∧ s.HasEnbId v := by
    intro v
    by_cases hv : v = enb
    · simp [HasEnbId, mmeEnbRemove, hv]
    · simp [HasEnbId, mmeEnbRemove, hv]
  constructor
  · exact h.imsi.congr (fun _ => rfl) (fun _ => Iff.rfl) fun _ _ => rfl
  · exact h.guti.congr (fun _ => rfl) (fun _ => Iff.rfl) fun _ _ => rfl
  · by_cases hid : (s.enbs.mem enb).idSet = true
    · exact (h.enbId.unset ⟨hlive, hid⟩ (KeyTable.isUnset ..)).congr (fun _ => rfl) hin
        fun _ _ => rfl
    · have htable : KeyTable.Agrees s.enbIdKey OgsHash.enbId id s.HasEnbId id
          (s.mmeEnbRemove enb).enbIdHash :=
        h.enbId.unset_of_not (hkeeps.resolve_left hid) (KeyTable.isUnset ..)
      apply htable.congr (fun _ => rfl) _ fun _ _ => rfl
      intro v
      rw [hin]
      apply and_iff_right_of_imp
      rintro hv rfl
      exact hid hv.2

/-! ## Runs -/

/-- A step that meets its condition keeps the tables in agreement. -/
theorem TablesAgree.step {values : List UInt32} (h : s.TablesAgree) (hs : s.WellFormed values)
    (hu : s.UniqueMTmsi) (ht : t.UniqueMTmsi) (hkeeps : s.KeepsTables op) (hstep : Step s op t) :
    t.TablesAgree := by
  cases hstep with
  | mmeUeAdd hslot hadd => exact h.add hs hu hslot hadd ht hkeeps
  | mmeUeNewGuti hlive hnew => exact h.newGuti hs hlive hnew ht
  | mmeUeRemove hlive => exact h.remove hs hlive
  | mmeUeSetImsi hlive hne hlength => exact h.setImsi hlive hne hlength hkeeps
  | mmeEnbAdd hslot => exact h.enbAdd hslot
  | mmeEnbSetEnbId hlive => exact h.setEnbId hlive hkeeps
  | mmeEnbRemove hlive => exact h.enbRemove hlive hkeeps

theorem KeepsTables.keepsMTmsi (h : s.KeepsTables op) : s.KeepsMTmsi op := by
  cases op with
  | mmeUeAdd ue m => exact h.1
  | _ => trivial

theorem tablesAgree_initial (servedGummei : OgsNasGuti) (values : List UInt32) :
    (initial servedGummei values).TablesAgree := by
  constructor
  · apply KeyTable.Agrees.nil
    rintro v ⟨hlive, -⟩
    cases hlive
  · apply KeyTable.Agrees.nil
    intro v hlive
    cases hlive
  · apply KeyTable.Agrees.nil
    rintro v ⟨hlive, -⟩
    cases hlive

/-- In every run whose steps meet their conditions the lookups agree with the records. -/
theorem lookupsAgree_of_keeps (random : Nat → UInt32) (poolUe fuel : Nat) (values : List UInt32)
    (hgenerate : mmeMTmsiPoolGenerate random poolUe fuel = some values)
    (servedGummei : OgsNasGuti) (tr : List (Op × MmeTables))
    (htrace : Lts.Trace (Lts.Restrict KeepsTables Step) (initial servedGummei values) tr) :
    ∀ p ∈ tr, p.2.LookupsAgree := by
  have hvalues := (mTmsiPool_of_generate hgenerate).nodup
  have hinv : ∀ p ∈ tr, (p.2.WellFormed values ∧ p.2.UniqueMTmsi) ∧ p.2.TablesAgree := by
    apply htrace.invariant (I := fun s => (s.WellFormed values ∧ s.UniqueMTmsi) ∧ s.TablesAgree)
    · rintro s op t ⟨⟨hs, hu⟩, h⟩ ⟨hkeeps, hstep⟩
      have ht := (uniqueMTmsi_iff_keeps hvalues hs hu hstep).mpr hkeeps.keepsMTmsi
      exact ⟨⟨hs.step hstep, ht⟩, h.step hs hu ht hkeeps hstep⟩
    · exact ⟨⟨wellFormed_initial _ _, uniqueMTmsi_initial _ _⟩, tablesAgree_initial _ _⟩
  intro p hp
  exact (hinv p hp).2.lookups

end

def imsi8 : Bytes := [0x00, 0x11, 0x01, 0x00, 0x00, 0x00, 0x00, 0xf1]

/-- A UE with the slot 1 is added and gets an IMSI. -/
def oneImsi : MmeTables := @mmeUeSetImsi constantHash oneUe 1 imsi8

theorem step_oneImsi : @Step constantHash oneUe (.mmeUeSetImsi 1 imsi8) oneImsi :=
  @Step.mmeUeSetImsi constantHash _ _ _ rfl (List.cons_ne_nil _ _) (by decide)

theorem imsiLen_oneUe (v : MmeUeId) : (oneUe.mmeUes.mem v).imsiLen = 0 := by
  have hadd : @mmeUeAdd constantHash (initial sampleGummei sampleValues) 1 0 = .ok oneUe := rfl
  rw [(@mmeUeNewGuti_ok _ _ _ _ constantHash hadd).2.2.2.2, Pool.mem_modify]
  split <;> rfl

/-- A UE gets an IMSI, and is found with it. -/
theorem lookupsAgree_setImsi : @mmeUeFindByImsi constantHash oneImsi imsi8 = some 1 := by
  have hagree := @lookupsAgree_of_keeps constantHash sampleRandom 2 4 sampleValues
    generate_sampleRandom sampleGummei
    [(.mmeUeAdd 1 0, oneUe), (.mmeUeSetImsi 1 imsi8, oneImsi)]
    (.cons ⟨⟨Or.inl rfl, rfl⟩, step_oneUe⟩ (.cons ⟨⟨?_, ?_⟩, step_oneImsi⟩ (.nil _)))
    (.mmeUeSetImsi 1 imsi8, oneImsi) (by simp)
  · apply (@LookupsAgree.imsi constantHash _ hagree imsi8 1).mpr
    exact ⟨⟨rfl, by decide⟩, by decide⟩
  · intro v _ himsi
    exact absurd (imsiLen_oneUe v) himsi.2
  · intro e he
    cases he

def twoUesOneImsi : MmeTables :=
  oneImsi.next (@mmeUeAdd constantHash oneImsi 2 1)

def sameImsi : MmeTables := @mmeUeSetImsi constantHash twoUesOneImsi 2 imsi8

def firstRemoved : MmeTables := @mmeUeRemove constantHash sameImsi 1

theorem trace_firstRemoved : @Lts.Trace _ _ (@Step constantHash)
    (initial sampleGummei sampleValues)
    [(.mmeUeAdd 1 0, oneUe), (.mmeUeSetImsi 1 imsi8, oneImsi), (.mmeUeAdd 2 1, twoUesOneImsi),
      (.mmeUeSetImsi 2 imsi8, sameImsi), (.mmeUeRemove 1, firstRemoved)] := by
  apply Lts.Trace.cons step_oneUe
  apply Lts.Trace.cons step_oneImsi
  apply Lts.Trace.cons (@Step.mmeUeAdd constantHash _ _ _ _ rfl rfl)
  apply Lts.Trace.cons (@Step.mmeUeSetImsi constantHash _ _ _ rfl (List.cons_ne_nil _ _)
    (by decide))
  apply Lts.Trace.cons (@Step.mmeUeRemove constantHash _ _ rfl)
  exact Lts.Trace.nil _

/-- An IMSI arrives on a second record and the first one is removed: the second one is in use
and has the IMSI, but is not found. -/
theorem lookups_same_imsi : ¬∀ (hash : OgsHash) (random : Nat → UInt32) (poolUe fuel : Nat)
    (values : List UInt32), mmeMTmsiPoolGenerate random poolUe fuel = some values →
      ∀ (servedGummei : OgsNasGuti) (tr : List (Op × MmeTables)),
        Lts.Trace (@Step hash) (initial servedGummei values) tr →
          ∀ p ∈ tr, @LookupsAgree hash p.2 := by
  intro hclaim
  have hlast := hclaim constantHash sampleRandom 2 4 sampleValues generate_sampleRandom
    sampleGummei _ trace_firstRemoved (.mmeUeRemove 1, firstRemoved) (by simp)
  have hfound := (@LookupsAgree.imsi constantHash _ hlast imsi8 2).mpr
    ⟨⟨rfl, by decide⟩, by decide⟩
  have hnone : @mmeUeFindByImsi constantHash firstRemoved imsi8 = none := by decide
  rw [hnone] at hfound
  cases hfound

end MmeTables
end NextEpc

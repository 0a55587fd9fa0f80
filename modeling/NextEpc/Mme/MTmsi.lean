import NextEpc.Lib.Ownership
import NextEpc.Lib.Trace
import NextEpc.Mme.Tables

/-!
# Unique M-TMSIs

The generator fills the pool with different values. In a run each M-TMSI is free or belongs to
one UE as long as no UE gets a slot in which the pointer of a former UE is left:
`mme_ue_new_guti` would free the M-TMSI it points to a second time.
-/

namespace NextEpc

/-! ## The generator -/

theorem mTmsiOfRandom_bits (random : UInt32) :
    mTmsiOfRandom random &&& 0xc0000000 = 0xc0000000 ∧
      mTmsiOfRandom random &&& 0x00ff0000 = 0 := by
  have htop : (0xff00ffff &&& 0xc0000000 : UInt32) = 0xc0000000 := rfl
  have hclear : (0xff00ffff &&& 0x00ff0000 : UInt32) = 0 := rfl
  constructor
  · rw [mTmsiOfRandom, UInt32.and_assoc, htop]
    apply UInt32.toBitVec_inj.mp
    ext i hi
    rw [UInt32.toBitVec_and, UInt32.toBitVec_or, BitVec.getElem_and, BitVec.getElem_or]
    simpa using Or.inr
  · rw [mTmsiOfRandom, UInt32.and_assoc, hclear, UInt32.and_zero]

/-- What is in the array at any time: different values with the bits of an M-TMSI. -/
theorem mmeMTmsiPoolGenerateFrom_spec {random : Nat → UInt32} {poolUe fuel i : Nat}
    {array values : List UInt32}
    (h : mmeMTmsiPoolGenerateFrom random poolUe fuel i array = some values)
    (hlength : array.length ≤ poolUe) (hnodup : array.Nodup)
    (hbits : ∀ v ∈ array, ∃ r, v = mTmsiOfRandom r) :
    values.length = poolUe ∧ values.Nodup ∧ ∀ v ∈ values, ∃ r, v = mTmsiOfRandom r := by
  induction fuel generalizing i array with
  | zero => cases h
  | succ fuel ih =>
    rw [mmeMTmsiPoolGenerateFrom] at h
    split at h
    · rename_i hlt
      dsimp only at h
      split at h
      · exact ih h hlength hnodup hbits
      · rename_i hnew
        apply ih h
        · rw [List.length_append, List.length_singleton]
          omega
        · rw [List.nodup_append]
          refine ⟨hnodup, List.nodup_singleton _, ?_⟩
          intro a ha b hb
          cases List.mem_singleton.mp hb
          rintro rfl
          exact hnew ha
        · intro v hv
          rcases List.mem_append.mp hv with hv | hv
          · exact hbits v hv
          · exact ⟨_, List.mem_singleton.mp hv⟩
    · rename_i hfull
      cases h
      exact ⟨by omega, hnodup, hbits⟩

/-- What the generator returns, if it does: as many M-TMSIs as UEs, no two of them equal. -/
structure MTmsiPool (poolUe : Nat) (values : List UInt32) : Prop where
  length : values.length = poolUe
  nodup : values.Nodup
  bits : ∀ v ∈ values, v &&& 0xc0000000 = 0xc0000000 ∧ v &&& 0x00ff0000 = 0

theorem mTmsiPool_of_generate {random : Nat → UInt32} {poolUe fuel : Nat} {values : List UInt32}
    (h : mmeMTmsiPoolGenerate random poolUe fuel = some values) : MTmsiPool poolUe values := by
  obtain ⟨hlength, hnodup, hvalues⟩ := mmeMTmsiPoolGenerateFrom_spec h (Nat.zero_le poolUe)
    List.nodup_nil (by simp)
  constructor
  · exact hlength
  · exact hnodup
  · intro v hv
    obtain ⟨r, rfl⟩ := hvalues v hv
    exact mTmsiOfRandom_bits r

namespace MmeTables
variable {s t : MmeTables} {ue : MmeUeId} {m old : MTmsiId} {op : Op}

/-! ## The list of free M-TMSIs -/

/-- The M-TMSI is one of the array and is not in the list of free ones. -/
def InUse (s : MmeTables) (m : MTmsiId) : Prop := m < s.mTmsi.length ∧ m ∉ s.mTmsiFree

/-- Each M-TMSI is free, and once, or belongs to exactly one UE, and the values that the UEs
have are different. -/
structure UniqueMTmsi (s : MmeTables) : Prop where
  owned : Ownership.Exclusive (fun ue => s.mmeUes.live ue = true)
    (fun ue => (s.mmeUes.mem ue).mTmsi.toList) s.InUse
  free : s.mTmsiFree.Nodup
  values : ∀ u v, s.mmeUes.live u = true → s.mmeUes.live v = true → u ≠ v →
    (s.mmeUes.mem u).guti.mTmsi ≠ (s.mmeUes.mem v).guti.mTmsi

/-- A UE is not added where a pointer is left, except when no M-TMSI is in use: the list of free
ones is full then, and freeing one more has no effect. -/
def KeepsMTmsi (s : MmeTables) : Op → Prop
  | .mmeUeAdd ue _ => (s.mmeUes.mem ue).mTmsi = none ∨ s.mTmsi.length ≤ s.mTmsiFree.length
  | _ => True

/-- The values in the array stay, and all pointers are into the array. -/
structure InArray (values : List UInt32) (s : MmeTables) : Prop where
  array : s.mTmsi = values
  free : ∀ m ∈ s.mTmsiFree, m < s.mTmsi.length
  pointer : ∀ ue m, (s.mmeUes.mem ue).mTmsi = some m → m < s.mTmsi.length

/-- The UE has an M-TMSI, and its GUTI is made of it. -/
def HasGuti (s : MmeTables) (ue : MmeUeId) : Prop :=
  ∃ m, (s.mmeUes.mem ue).mTmsi = some m ∧
    (s.mmeUes.mem ue).guti = { s.servedGummei with mTmsi := s.mTmsi.getD m 0 }

/-- What holds in every state. -/
structure WellFormed (values : List UInt32) (s : MmeTables) : Prop extends s.InArray values where
  guti : ∀ ue, s.mmeUes.live ue = true → s.HasGuti ue

@[simp] theorem mmeUes_allocMmeUe : (s.allocMmeUe ue).mmeUes = s.mmeUes.alloc ue := rfl

@[simp] theorem mTmsi_allocMmeUe : (s.allocMmeUe ue).mTmsi = s.mTmsi := rfl

section
variable [OgsHash]

theorem removeGuti_of_none (h : (s.mmeUes.mem ue).mTmsi = none) : s.removeGuti ue = s := by
  rw [removeGuti, h]

theorem removeGuti_frame (s : MmeTables) (ue : MmeUeId) : (s.removeGuti ue).mmeUes = s.mmeUes ∧
    (s.removeGuti ue).mTmsi = s.mTmsi ∧ (s.removeGuti ue).servedGummei = s.servedGummei ∧
    (s.removeGuti ue).enbs = s.enbs ∧ (s.removeGuti ue).imsiUeHash = s.imsiUeHash ∧
    (s.removeGuti ue).enbIdHash = s.enbIdHash := by
  rw [removeGuti]
  split <;> exact ⟨rfl, rfl, rfl, rfl, rfl, rfl⟩

@[simp] theorem mmeUes_removeGuti : (s.removeGuti ue).mmeUes = s.mmeUes :=
  (removeGuti_frame s ue).1

@[simp] theorem mTmsi_removeGuti (s : MmeTables) (ue : MmeUeId) :
    (s.removeGuti ue).mTmsi = s.mTmsi := (removeGuti_frame s ue).2.1

theorem mTmsiFree_removeGuti (h : (s.mmeUes.mem ue).mTmsi = some old) :
    (s.removeGuti ue).mTmsiFree =
      if s.mTmsiFree.length < s.mTmsi.length then s.mTmsiFree ++ [old] else s.mTmsiFree := by
  simp only [removeGuti, h, mmeMTmsiFree]
  split
  · rename_i hlt
    exact OgsPool.free_of_lt _ _ _ hlt
  · rename_i hfull
    exact OgsPool.free_of_le _ _ _ (Nat.le_of_not_lt hfull)

/-- The list of free M-TMSIs holds none that was not there or in the record. -/
theorem mem_mTmsiFree_removeGuti (h : m ∈ (s.removeGuti ue).mTmsiFree) :
    m ∈ s.mTmsiFree ∨ (s.mmeUes.mem ue).mTmsi = some m := by
  cases hold : (s.mmeUes.mem ue).mTmsi with
  | none =>
    rw [removeGuti_of_none hold] at h
    exact Or.inl h
  | some old =>
    rw [mTmsiFree_removeGuti hold] at h
    split at h
    · rcases List.mem_append.mp h with h | h
      · exact Or.inl h
      · exact Or.inr (congrArg some (List.mem_singleton.mp h).symm)
    · exact Or.inl h

/-- What `mme_ue_new_guti` does to the pools. -/
theorem mmeUeNewGuti_ok (h : s.mmeUeNewGuti ue m = .ok t) :
    m ∈ (s.removeGuti ue).mTmsiFree ∧ t.mTmsiFree = (s.removeGuti ue).mTmsiFree.erase m ∧
      t.mTmsi = s.mTmsi ∧ t.servedGummei = s.servedGummei ∧
      t.mmeUes = s.mmeUes.modify ue (fun r => { r with
        guti := { s.servedGummei with mTmsi := s.mTmsi.getD m 0 }, mTmsi := some m }) := by
  obtain ⟨hues, harray, hgummei, -⟩ := removeGuti_frame s ue
  obtain ⟨s', halloc, h⟩ := Fallible.bind_eq_ok.mp h
  obtain ⟨_, hmem, halloc⟩ := Fallible.bind_eq_ok.mp halloc
  cases halloc
  cases h
  refine ⟨Fallible.assert_eq_ok.mp hmem, rfl, harray, hgummei, ?_⟩
  simp only [hues, harray, hgummei]

theorem InArray.newGuti {values : List UInt32} (hs : s.InArray values)
    (h : s.mmeUeNewGuti ue m = .ok t) : t.InArray values := by
  obtain ⟨hmem, hfree, harray, -, hues⟩ := mmeUeNewGuti_ok h
  have hbound : ∀ n ∈ (s.removeGuti ue).mTmsiFree, n < s.mTmsi.length := by
    intro n hn
    rcases mem_mTmsiFree_removeGuti hn with hn | hn
    · exact hs.free n hn
    · exact hs.pointer ue n hn
  constructor
  · exact harray.trans hs.array
  · intro n hn
    rw [hfree] at hn
    rw [harray]
    exact hbound n (List.mem_of_mem_erase hn)
  · intro v n hn
    rw [harray]
    rw [hues, Pool.mem_modify] at hn
    split at hn
    · cases hn
      exact hbound m hmem
    · exact hs.pointer v n hn

theorem hasGuti_newGuti (h : s.mmeUeNewGuti ue m = .ok t)
    (hother : ∀ v, v ≠ ue → s.mmeUes.live v = true → s.HasGuti v) :
    ∀ v, t.mmeUes.live v = true → t.HasGuti v := by
  obtain ⟨-, -, harray, hgummei, hues⟩ := mmeUeNewGuti_ok h
  intro v hv
  rw [hues, Pool.live_modify] at hv
  rw [HasGuti, hues, Pool.mem_modify, hgummei, harray]
  split
  · exact ⟨m, rfl, rfl⟩
  · rename_i hne
    exact hother v hne hv

theorem InArray.removeGuti {values : List UInt32} (hs : s.InArray values) (ue : MmeUeId) :
    (s.removeGuti ue).InArray values := by
  obtain ⟨hues, harray, -⟩ := removeGuti_frame s ue
  constructor
  · exact harray.trans hs.array
  · intro n hn
    rw [harray]
    rcases mem_mTmsiFree_removeGuti hn with hn | hn
    · exact hs.free n hn
    · exact hs.pointer ue n hn
  · rw [hues, harray]
    exact hs.pointer

/-- The pools after a UE is removed. -/
theorem mmeUeRemove_frame (s : MmeTables) (ue : MmeUeId) :
    (s.mmeUeRemove ue).mmeUes = s.mmeUes.free ue ∧
    (s.mmeUeRemove ue).mTmsiFree = (s.removeGuti ue).mTmsiFree ∧
    (s.mmeUeRemove ue).mTmsi = s.mTmsi ∧ (s.mmeUeRemove ue).servedGummei = s.servedGummei := by
  obtain ⟨hues, harray, hgummei, -⟩ := removeGuti_frame s ue
  simp only [mmeUeRemove]
  split <;> exact ⟨congrArg (Pool.free · ue) hues, rfl, harray, hgummei⟩

theorem WellFormed.step {values : List UInt32} (hs : s.WellFormed values) (h : Step s op t) :
    t.WellFormed values := by
  cases h with
  | mmeUeAdd hfree hadd =>
    rename_i ue m
    have halloc : (s.allocMmeUe ue).InArray values := ⟨hs.array, hs.free, hs.pointer⟩
    refine ⟨halloc.newGuti hadd, hasGuti_newGuti hadd ?_⟩
    intro v hne hv
    rw [mmeUes_allocMmeUe, Pool.live_alloc, if_neg hne] at hv
    exact hs.guti v hv
  | mmeUeNewGuti hlive hnew =>
    exact ⟨hs.toInArray.newGuti hnew, hasGuti_newGuti hnew fun v _ => hs.guti v⟩
  | mmeUeRemove hlive =>
    rename_i ue
    obtain ⟨hues, hfree, harray, hgummei⟩ := mmeUeRemove_frame s ue
    have hremoved := hs.toInArray.removeGuti ue
    refine ⟨⟨harray.trans hs.array, ?_, ?_⟩, ?_⟩
    · rw [hfree, harray, ← mTmsi_removeGuti s ue]
      exact hremoved.free
    · rw [hues, harray]
      exact hs.pointer
    · intro v hv
      rw [HasGuti, hues, harray, hgummei]
      rw [hues, Pool.live_free] at hv
      split at hv
      · cases hv
      · exact hs.guti v hv
  | mmeUeSetImsi hlive hne hlength =>
    rename_i ue imsi
    refine ⟨⟨hs.array, hs.free, ?_⟩, ?_⟩
    · intro v n hn
      simp only [mmeUeSetImsi, Pool.mem_modify] at hn
      split at hn
      · exact hs.pointer ue n hn
      · exact hs.pointer v n hn
    · intro v hv
      simp only [HasGuti, mmeUeSetImsi, Pool.mem_modify]
      split
      · rename_i heq
        subst heq
        exact hs.guti v hv
      · exact hs.guti v hv
  | mmeEnbAdd _ => exact ⟨⟨hs.array, hs.free, hs.pointer⟩, hs.guti⟩
  | mmeEnbSetEnbId _ => exact ⟨⟨hs.array, hs.free, hs.pointer⟩, hs.guti⟩
  | mmeEnbRemove _ => exact ⟨⟨hs.array, hs.free, hs.pointer⟩, hs.guti⟩

end

/-! ## Steps that keep the M-TMSIs unique -/

/-- Different M-TMSIs have different values. -/
theorem values_of_owned {values : List UInt32} (hs : s.WellFormed values) (hvalues : values.Nodup)
    (howned : Ownership.Exclusive (fun ue => s.mmeUes.live ue = true)
      (fun ue => (s.mmeUes.mem ue).mTmsi.toList) s.InUse) :
    ∀ u v, s.mmeUes.live u = true → s.mmeUes.live v = true → u ≠ v →
      (s.mmeUes.mem u).guti.mTmsi ≠ (s.mmeUes.mem v).guti.mTmsi := by
  intro u v hu hv hne heq
  obtain ⟨m, hm, hguti⟩ := hs.guti u hu
  obtain ⟨n, hn, hguti'⟩ := hs.guti v hv
  have hmlt := hs.pointer u m hm
  have hnlt := hs.pointer v n hn
  rw [hguti, hguti', List.getD_eq_getElem _ _ hmlt, List.getD_eq_getElem _ _ hnlt] at heq
  rw [← hs.array] at hvalues
  have hmn : m = n := (List.Nodup.getElem_inj_iff hvalues).mp heq
  apply hne
  apply howned.distinct u v m hu hv
  · rw [hm]
    exact List.mem_singleton_self m
  · rw [hn, hmn]
    exact List.mem_singleton_self n

/-- In a list of free M-TMSIs without repetition there is room for one that is in use. -/
theorem length_lt_of_inUse (hbound : ∀ n ∈ s.mTmsiFree, n < s.mTmsi.length)
    (hnodup : s.mTmsiFree.Nodup) (hm : s.InUse m) : s.mTmsiFree.length < s.mTmsi.length := by
  have hall : (m :: s.mTmsiFree).Nodup := List.nodup_cons.mpr ⟨hm.2, hnodup⟩
  have hsub : m :: s.mTmsiFree ⊆ List.range s.mTmsi.length := by
    intro n hn
    rw [List.mem_range]
    rcases List.mem_cons.mp hn with rfl | hn
    · exact hm.1
    · exact hbound n hn
  have hle := (List.subperm_of_subset hall hsub).length_le
  rw [List.length_cons, List.length_range] at hle
  omega

/-- A UE takes a free M-TMSI. -/
theorem inUse_erase {free : List MTmsiId} (hnodup : free.Nodup) (hm : m ∈ free)
    (hbound : m < s.mTmsi.length) (n : MTmsiId) :
    n < s.mTmsi.length ∧ n ∉ free.erase m ↔ n ∈ [m] ∨ n < s.mTmsi.length ∧ n ∉ free := by
  rw [hnodup.mem_erase_iff, List.mem_singleton]
  by_cases hn : n = m
  · subst hn
    simp [hbound]
  · simp [hn]

section
variable [OgsHash]

/-- A UE that has an M-TMSI gives it back. -/
theorem release_removeGuti {values : List UInt32} (hs : s.InArray values)
    (hfree : s.mTmsiFree.Nodup) (hold : (s.mmeUes.mem ue).mTmsi = some old) (huse : s.InUse old) :
    (s.removeGuti ue).mTmsiFree.Nodup ∧
      ∀ n, (s.removeGuti ue).InUse n ↔ n ∉ (s.mmeUes.mem ue).mTmsi.toList ∧ s.InUse n := by
  have hlt := length_lt_of_inUse hs.free hfree huse
  have hlist := mTmsiFree_removeGuti (s := s) hold
  rw [if_pos hlt] at hlist
  constructor
  · rw [hlist, List.nodup_append]
    refine ⟨hfree, List.nodup_singleton _, ?_⟩
    intro a ha b hb
    cases List.mem_singleton.mp hb
    rintro rfl
    exact huse.2 ha
  · intro n
    rw [InUse, InUse, hlist, mTmsi_removeGuti, hold]
    simp only [List.mem_append, List.mem_singleton, Option.toList_some]
    tauto

/-- The UE takes an M-TMSI that is free when its own is given back. -/
theorem owned_newGuti {values : List UInt32} (hs : s.InArray values)
    (h : s.mmeUeNewGuti ue m = .ok t) (hlive : s.mmeUes.live ue = true)
    (hfree : (s.removeGuti ue).mTmsiFree.Nodup)
    (howned : Ownership.Exclusive (fun v => v ≠ ue ∧ s.mmeUes.live v = true)
      (fun v => (s.mmeUes.mem v).mTmsi.toList) (s.removeGuti ue).InUse) :
    Ownership.Exclusive (fun v => t.mmeUes.live v = true)
        (fun v => (t.mmeUes.mem v).mTmsi.toList) t.InUse ∧ t.mTmsiFree.Nodup := by
  obtain ⟨hmem, hlist, harray, -, hues⟩ := mmeUeNewGuti_ok h
  have hbound : m < s.mTmsi.length := by
    rw [← mTmsi_removeGuti s ue]
    exact (hs.removeGuti ue).free m hmem
  have hout : ¬(ue ≠ ue ∧ s.mmeUes.live ue = true) := fun h => h.1 rfl
  have hacquired := howned.acquire (List.nodup_singleton m)
    (fun n hn huse => huse.2 (List.mem_singleton.mp hn ▸ hmem)) hout
  constructor
  · apply hacquired.congr
    · intro v
      rw [hues, Pool.live_modify]
      by_cases hv : v = ue
      · subst hv
        simp [hlive]
      · simp [hv]
    · intro v hv
      rw [hues, Pool.mem_modify, Function.update_apply]
      split <;> rfl
    · intro n
      rw [InUse, InUse, hlist, harray, mTmsi_removeGuti]
      exact inUse_erase hfree hmem hbound n
  · rw [hlist]
    exact hfree.erase m

theorem UniqueMTmsi.newGuti {values : List UInt32} (hs : s.WellFormed values)
    (hu : s.UniqueMTmsi) (hlive : s.mmeUes.live ue = true) (h : s.mmeUeNewGuti ue m = .ok t) :
    Ownership.Exclusive (fun v => t.mmeUes.live v = true)
        (fun v => (t.mmeUes.mem v).mTmsi.toList) t.InUse ∧ t.mTmsiFree.Nodup := by
  obtain ⟨old, hold, -⟩ := hs.guti ue hlive
  have huse : s.InUse old := (hu.owned.used_iff old).mpr ⟨ue, hlive, by simp [hold]⟩
  obtain ⟨hfree, hinUse⟩ := release_removeGuti hs.toInArray hu.free hold huse
  apply owned_newGuti hs.toInArray h hlive hfree
  exact (hu.owned.release hlive).congr (fun v => Iff.rfl) (fun v _ => rfl) hinUse

theorem UniqueMTmsi.add {values : List UInt32} (hs : s.WellFormed values)
    (hu : s.UniqueMTmsi) (hslot : s.mmeUes.live ue = false) (h : s.mmeUeAdd ue m = .ok t)
    (hkeeps : (s.mmeUes.mem ue).mTmsi = none ∨ s.mTmsi.length ≤ s.mTmsiFree.length) :
    Ownership.Exclusive (fun v => t.mmeUes.live v = true)
        (fun v => (t.mmeUes.mem v).mTmsi.toList) t.InUse ∧ t.mTmsiFree.Nodup := by
  have halloc : (s.allocMmeUe ue).InArray values := ⟨hs.array, hs.free, hs.pointer⟩
  -- nothing is added to the list of free M-TMSIs before one is taken
  have hlist : ((s.allocMmeUe ue).removeGuti ue).mTmsiFree = s.mTmsiFree := by
    cases hold : ((s.allocMmeUe ue).mmeUes.mem ue).mTmsi with
    | none =>
      rw [removeGuti_of_none hold]
      rfl
    | some old =>
      rcases hkeeps with hnone | hfull
      · exact absurd (hold.symm.trans hnone) (by simp)
      · rw [mTmsiFree_removeGuti hold]
        exact if_neg (Nat.not_lt.mpr hfull)
  apply owned_newGuti halloc h
  · simp
  · rw [hlist]
    exact hu.free
  · apply hu.owned.congr
    · intro v
      by_cases hv : v = ue
      · subst hv
        simp [hslot]
      · simp [hv]
    · exact fun v _ => rfl
    · intro n
      rw [InUse, InUse, hlist, mTmsi_removeGuti, mTmsi_allocMmeUe]

/-- A pointer that is left in the slot of a new UE ends up twice in the list of free M-TMSIs,
or in the list while a UE has it. -/
theorem keeps_of_unique {values : List UInt32} (hs : s.WellFormed values) (hu : s.UniqueMTmsi)
    (hslot : s.mmeUes.live ue = false) (h : s.mmeUeAdd ue m = .ok t) (ht : t.UniqueMTmsi) :
    (s.mmeUes.mem ue).mTmsi = none ∨ s.mTmsi.length ≤ s.mTmsiFree.length := by
  obtain ⟨-, hlist, -, -, hues⟩ := mmeUeNewGuti_ok h
  cases hold : (s.mmeUes.mem ue).mTmsi with
  | none => exact Or.inl rfl
  | some old =>
    right
    by_contra hroom
    have hroom : s.mTmsiFree.length < s.mTmsi.length := Nat.lt_of_not_le hroom
    have hold' : ((s.allocMmeUe ue).mmeUes.mem ue).mTmsi = some old := hold
    rw [mTmsiFree_removeGuti hold'] at hlist
    have hlist : t.mTmsiFree = (s.mTmsiFree ++ [old]).erase m := hlist.trans
      (congrArg (List.erase · m) (if_pos hroom))
    have hnew : t.mmeUes.live ue = true ∧ (t.mmeUes.mem ue).mTmsi = some m := by
      rw [hues]
      simp
    have hkeep : ∀ v, v ≠ ue → t.mmeUes.live v = s.mmeUes.live v ∧
        (t.mmeUes.mem v).mTmsi = (s.mmeUes.mem v).mTmsi := by
      intro v hv
      rw [hues]
      simp [hv]
    by_cases hm : m = old
    · subst hm
      by_cases hfree : m ∈ s.mTmsiFree
      · -- the new UE has it, and it is in the list once more
        have huse : t.InUse m := (ht.owned.used_iff m).mpr ⟨ue, hnew.1, by simp [hnew.2]⟩
        apply huse.2
        rw [hlist, List.erase_append_left _ hfree]
        simp
      · obtain ⟨v, hv, hmem⟩ := (hu.owned.used_iff m).mp ⟨hs.pointer ue m hold, hfree⟩
        have hne : v ≠ ue := by
          rintro rfl
          rw [hslot] at hv
          cases hv
        apply hne
        apply ht.owned.distinct v ue m
        · exact (hkeep v hne).1.trans hv
        · exact hnew.1
        · rwa [(hkeep v hne).2]
        · simp [hnew.2]
    · have hin : old ∈ t.mTmsiFree := by
        rw [hlist]
        apply (List.mem_erase_of_ne (Ne.symm hm)).mpr
        simp
      by_cases hfree : old ∈ s.mTmsiFree
      · have hcount := List.nodup_iff_count_le_one.mp ht.free old
        rw [hlist, List.count_erase_of_ne (Ne.symm hm), List.count_append,
          List.count_singleton_self] at hcount
        have hpos := List.count_pos_iff.mpr hfree
        omega
      · obtain ⟨v, hv, hmem⟩ := (hu.owned.used_iff old).mp ⟨hs.pointer ue old hold, hfree⟩
        have hne : v ≠ ue := by
          rintro rfl
          rw [hslot] at hv
          cases hv
        have huse : t.InUse old := by
          apply (ht.owned.used_iff old).mpr
          refine ⟨v, (hkeep v hne).1.trans hv, ?_⟩
          rwa [(hkeep v hne).2]
        exact huse.2 hin

theorem UniqueMTmsi.remove {values : List UInt32} (hs : s.WellFormed values)
    (hu : s.UniqueMTmsi) (hlive : s.mmeUes.live ue = true) :
    Ownership.Exclusive (fun v => (s.mmeUeRemove ue).mmeUes.live v = true)
        (fun v => ((s.mmeUeRemove ue).mmeUes.mem v).mTmsi.toList) (s.mmeUeRemove ue).InUse ∧
      (s.mmeUeRemove ue).mTmsiFree.Nodup := by
  obtain ⟨hues, hlist, harray, -⟩ := mmeUeRemove_frame s ue
  obtain ⟨old, hold, -⟩ := hs.guti ue hlive
  have huse : s.InUse old := (hu.owned.used_iff old).mpr ⟨ue, hlive, by simp [hold]⟩
  obtain ⟨hfree, hinUse⟩ := release_removeGuti hs.toInArray hu.free hold huse
  constructor
  · apply (hu.owned.release hlive).congr
    · intro v
      rw [hues, Pool.live_free]
      split <;> simp [*]
    · intro v _
      rw [hues, Pool.mem_free]
    · intro n
      rw [InUse, hlist, harray, ← mTmsi_removeGuti s ue]
      exact hinUse n
  · rw [hlist]
    exact hfree

/-- A step keeps the M-TMSIs unique exactly if no pointer is left in the slot of a new UE. -/
theorem uniqueMTmsi_iff_keeps {values : List UInt32} (hvalues : values.Nodup)
    (hs : s.WellFormed values) (hu : s.UniqueMTmsi) (h : Step s op t) :
    t.UniqueMTmsi ↔ s.KeepsMTmsi op := by
  have hunique : Ownership.Exclusive (fun v => t.mmeUes.live v = true)
      (fun v => (t.mmeUes.mem v).mTmsi.toList) t.InUse ∧ t.mTmsiFree.Nodup → t.UniqueMTmsi :=
    fun ht => ⟨ht.1, ht.2, values_of_owned (hs.step h) hvalues ht.1⟩
  cases h with
  | mmeUeAdd hslot hadd =>
    constructor
    · exact keeps_of_unique hs hu hslot hadd
    · intro hkeeps
      exact hunique (hu.add hs hslot hadd hkeeps)
  | mmeUeNewGuti hlive hnew => exact iff_of_true (hunique (hu.newGuti hs hlive hnew)) trivial
  | mmeUeRemove hlive => exact iff_of_true (hunique (hu.remove hs hlive)) trivial
  | mmeUeSetImsi hlive hne hlength =>
    rename_i ue imsi
    apply iff_of_true (hunique ⟨?_, hu.free⟩) trivial
    apply hu.owned.congr
    · exact fun v => Iff.rfl
    · intro v _
      rw [mmeUeSetImsi, Pool.mem_modify]
      split
      · rename_i heq
        rw [heq]
      · rfl
    · exact fun n => Iff.rfl
  | mmeEnbAdd _ => exact iff_of_true (hunique ⟨hu.owned, hu.free⟩) trivial
  | mmeEnbSetEnbId _ => exact iff_of_true (hunique ⟨hu.owned, hu.free⟩) trivial
  | mmeEnbRemove _ => exact iff_of_true (hunique ⟨hu.owned, hu.free⟩) trivial

/-! ## Runs -/

omit [OgsHash] in
theorem wellFormed_initial (servedGummei : OgsNasGuti) (values : List UInt32) :
    (initial servedGummei values).WellFormed values := by
  refine ⟨⟨rfl, ?_, ?_⟩, ?_⟩
  · intro m hm
    exact List.mem_range.mp hm
  · intro ue m hm
    cases hm
  · intro ue hlive
    cases hlive

omit [OgsHash] in
theorem uniqueMTmsi_initial (servedGummei : OgsNasGuti) (values : List UInt32) :
    (initial servedGummei values).UniqueMTmsi := by
  constructor
  · apply Ownership.Exclusive.of_used_iff
    · intro u v m hu
      cases hu
    · intro m
      apply iff_of_false
      · rintro ⟨hlt, hnot⟩
        exact hnot (List.mem_range.mpr hlt)
      · rintro ⟨u, hu, -⟩
        cases hu
    · intro u hu
      cases hu
  · exact List.nodup_range
  · intro u v hu
    cases hu

end

/-- The generator makes different M-TMSIs, and in every run they are unique if and only if no
pointer is left in the slot of a new UE. -/
theorem uniqueMTmsi_run_iff [OgsHash] (random : Nat → UInt32) (poolUe fuel : Nat)
    (values : List UInt32) (hgenerate : mmeMTmsiPoolGenerate random poolUe fuel = some values)
    (servedGummei : OgsNasGuti) (tr : List (Op × MmeTables))
    (htrace : Lts.Trace Step (initial servedGummei values) tr) :
    MTmsiPool poolUe values ∧ ((∀ p ∈ tr, p.2.UniqueMTmsi) ↔
      Lts.Trace (Lts.Restrict KeepsMTmsi Step) (initial servedGummei values) tr) := by
  have hpool := mTmsiPool_of_generate hgenerate
  refine ⟨hpool, ?_⟩
  apply Lts.Trace.invariant_iff (I := UniqueMTmsi) (J := WellFormed values) (C := KeepsMTmsi)
  · intro s op t hs hstep
    exact hs.step hstep
  · intro s op t hs hu hstep
    exact uniqueMTmsi_iff_keeps hpool.nodup hs hu hstep
  · exact htrace
  · exact wellFormed_initial servedGummei values
  · exact uniqueMTmsi_initial servedGummei values

/-- A pool, for runs on concrete inputs. -/
@[reducible] def OgsPool.reference : OgsPool where
  free size l object := if l.length < size then l ++ [object] else l
  free_of_lt _ _ _ h := if_pos h
  free_of_le _ _ _ h := if_neg (Nat.not_lt.mpr h)

/-- Tables with a constant hash function, for runs on concrete inputs. -/
@[reducible] def constantHash : OgsHash where
  toHashTable := KeyTable.HashTable.first UInt32
  toOgsPool := OgsPool.reference
  imsi _ := 0
  guti _ := 0
  enbId _ := 0

def sampleGummei : OgsNasGuti := ⟨#v[0x00, 0xf1, 0x10], 2, 1, 0⟩

/-- A random stream in which the second value is the first once more. -/
def sampleRandom (i : Nat) : UInt32 := if i < 2 then 0x12345678 else 0x9abcdef0

def sampleValues : List UInt32 := [0xd2005678, 0xda00def0]

theorem generate_sampleRandom : mmeMTmsiPoolGenerate sampleRandom 2 4 = some sampleValues := by
  decide

/-- The state after a step that returns one. -/
def next (s : MmeTables) (m : MmeM MmeTables) : MmeTables := m.toOption.getD s

def oneUe : MmeTables :=
  (initial sampleGummei sampleValues).next
    (@mmeUeAdd constantHash (initial sampleGummei sampleValues) 1 0)

theorem step_oneUe :
    @Step constantHash (initial sampleGummei sampleValues) (.mmeUeAdd 1 0) oneUe :=
  @Step.mmeUeAdd constantHash _ _ _ _ rfl rfl

/-- A UE is added and removed. -/
theorem uniqueMTmsi_run_remove : ∃ tr : List (Op × MmeTables), tr.length = 2 ∧
    MTmsiPool 2 sampleValues ∧ ∀ p ∈ tr, p.2.UniqueMTmsi := by
  have hremove : @Step constantHash oneUe (.mmeUeRemove 1) (@mmeUeRemove constantHash oneUe 1) :=
    @Step.mmeUeRemove constantHash _ _ rfl
  have hrun := @uniqueMTmsi_run_iff constantHash sampleRandom 2 4 sampleValues
    generate_sampleRandom sampleGummei _ (.cons step_oneUe (.cons hremove (.nil _)))
  refine ⟨_, rfl, hrun.1, hrun.2.mpr ?_⟩
  exact .cons ⟨Or.inl rfl, step_oneUe⟩ (.cons ⟨trivial, hremove⟩ (.nil _))

def twoUes : MmeTables := oneUe.next (@mmeUeAdd constantHash oneUe 2 1)

def secondUe : MmeTables := @mmeUeRemove constantHash twoUes 1

def slotReused : MmeTables := secondUe.next (@mmeUeAdd constantHash secondUe 1 0)

theorem trace_slotReused : @Lts.Trace _ _ (@Step constantHash) (initial sampleGummei sampleValues)
    [(.mmeUeAdd 1 0, oneUe), (.mmeUeAdd 2 1, twoUes), (.mmeUeRemove 1, secondUe),
      (.mmeUeAdd 1 0, slotReused)] := by
  apply Lts.Trace.cons step_oneUe
  apply Lts.Trace.cons (@Step.mmeUeAdd constantHash _ _ _ _ rfl rfl)
  apply Lts.Trace.cons (@Step.mmeUeRemove constantHash _ _ rfl)
  apply Lts.Trace.cons (@Step.mmeUeAdd constantHash _ _ _ _ rfl rfl)
  exact Lts.Trace.nil _

/-- The third UE gets the slot of the first one and its M-TMSI. The M-TMSI was freed twice, so
that it is free and in use. -/
theorem uniqueMTmsi_slot_reused : ¬∀ (hash : OgsHash) (random : Nat → UInt32) (poolUe fuel : Nat)
    (values : List UInt32), mmeMTmsiPoolGenerate random poolUe fuel = some values →
      ∀ (servedGummei : OgsNasGuti) (tr : List (Op × MmeTables)),
        Lts.Trace (@Step hash) (initial servedGummei values) tr →
          ∀ p ∈ tr, p.2.UniqueMTmsi := by
  intro hclaim
  have hlast := hclaim constantHash sampleRandom 2 4 sampleValues generate_sampleRandom
    sampleGummei _ trace_slotReused (.mmeUeAdd 1 0, slotReused) (by simp)
  have hmem : (slotReused.mmeUes.mem 1).mTmsi = some 0 := rfl
  have huse : slotReused.InUse 0 := (hlast.owned.used_iff 0).mpr ⟨1, rfl, by simp [hmem]⟩
  have hfree : slotReused.mTmsiFree = [0] := rfl
  apply huse.2
  simp [hfree]

end MmeTables
end NextEpc

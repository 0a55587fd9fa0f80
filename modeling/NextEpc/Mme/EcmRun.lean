import NextEpc.Mme.EcmAssoc

/-!
# Runs of the operations on the association

What holds in every state of a run, and from it the conditions on all operations of a run
together: they are met exactly if the association is consistent all along.
-/

namespace NextEpc
namespace Ecm
variable {s t : Ecm} {enbUe sourceUe targetUe x : EnbUeId} {mmeUe y : MmeUeId}
  {enb newEnb : MmeEnbId}

/-! ## Well-formedness -/

theorem wellFormed_initial : initial.WellFormed := by
  constructor <;> simp [initial]

theorem WellFormed.enbUeAdd (hs : s.WellFormed) (hfree : s.enbUes.live enbUe = false) :
    (s.enbUeAdd enbUe enb).WellFormed := by
  have hlive : ∀ x, (s.enbUeAdd enbUe enb).enbUes.live x =
      if x = enbUe then true else s.enbUes.live x := by
    intro x
    simp [Ecm.enbUeAdd]
  have hout : ∀ enb, enbUe ∉ s.enbUeList enb := by
    intro enb he
    have h := ((hs.list enb enbUe).mp he).1
    rw [hfree] at h
    cases h
  have hlist : ∀ other, (s.enbUeAdd enbUe enb).enbUeList other =
      if other = enb then s.enbUeList enb ++ [enbUe] else s.enbUeList other := by
    intro other
    simp [Ecm.enbUeAdd, Function.update_apply]
  constructor
  · intro other e
    rw [hlist, hlive, mem_enbUeAdd]
    have h := hs.list other e
    have hout := hout other
    grind
  · intro other
    rw [hlist]
    split
    · rw [List.nodup_append]
      refine ⟨hs.nodup enb, List.nodup_singleton _, ?_⟩
      intro a ha b hb
      rw [List.mem_singleton.mp hb]
      rintro rfl
      exact hout enb ha
    · exact hs.nodup other
  · intro e
    rw [hlive, mem_enbUeAdd]
    have h := hs.freeEnbUe e
    grind
  · exact hs.freeMmeUe
  · intro e
    rw [mem_enbUeAdd]
    exact hs.sourceUe e
  · intro e
    rw [mem_enbUeAdd]
    exact hs.targetUe e

theorem WellFormed.enbUeRemove (hs : s.WellFormed) : (s.enbUeRemove enbUe).WellFormed := by
  have hlist : ∀ other, (s.enbUeRemove enbUe).enbUeList other =
      if other = (s.enbUes.mem enbUe).enb then (s.enbUeList other).erase enbUe
      else s.enbUeList other := by
    intro other
    simp only [Ecm.enbUeRemove, Ecm.enbUeDeassociate, Pool.mem_modify, if_true,
      Function.update_apply]
    split
    · rename_i h
      rw [h]
    · rfl
  constructor
  · intro other e
    rw [hlist, live_enbUeRemove, mem_enbUeRemove]
    have h := hs.list other e
    have h' := hs.list other enbUe
    have herase := (hs.nodup other).mem_erase_iff (a := e) (b := enbUe)
    grind
  · intro other
    rw [hlist]
    split
    · exact (hs.nodup other).erase enbUe
    · exact hs.nodup other
  · intro e
    rw [live_enbUeRemove, mem_enbUeRemove]
    have h := hs.freeEnbUe e
    grind
  · exact hs.freeMmeUe
  · intro e
    rw [mem_enbUeRemove]
    exact hs.sourceUe e
  · intro e
    rw [mem_enbUeRemove]
    exact hs.targetUe e

theorem WellFormed.foldl_enbUeRemove (l : List EnbUeId) (hs : s.WellFormed) :
    (l.foldl Ecm.enbUeRemove s).WellFormed := by
  induction l generalizing s with
  | nil => exact hs
  | cons e l ih => exact ih hs.enbUeRemove

theorem WellFormed.enbUeSwitchToEnb (hs : s.WellFormed) (huse : s.enbUes.live enbUe = true) :
    (s.enbUeSwitchToEnb enbUe newEnb).WellFormed := by
  have hlist : ∀ other, (s.enbUeSwitchToEnb enbUe newEnb).enbUeList other =
      if other = newEnb then
        (if newEnb = (s.enbUes.mem enbUe).enb then (s.enbUeList newEnb).erase enbUe
          else s.enbUeList newEnb) ++ [enbUe]
      else if other = (s.enbUes.mem enbUe).enb then (s.enbUeList other).erase enbUe
      else s.enbUeList other := by
    intro other
    simp only [Ecm.enbUeSwitchToEnb, Function.update_apply]
    grind
  have hlive : (s.enbUeSwitchToEnb enbUe newEnb).enbUes.live = s.enbUes.live := rfl
  constructor
  · intro other e
    rw [hlist, hlive, mem_enbUeSwitchToEnb]
    have h := hs.list other e
    have h' := hs.list other enbUe
    have herase := (hs.nodup other).mem_erase_iff (a := e) (b := enbUe)
    grind
  · intro other
    have h' := hs.list newEnb enbUe
    have hnodup := hs.nodup newEnb
    have herase := hnodup.mem_erase_iff (a := enbUe) (b := enbUe)
    rw [hlist]
    split
    · rw [List.nodup_append]
      refine ⟨?_, List.nodup_singleton _, ?_⟩
      · split
        · exact hnodup.erase enbUe
        · exact hnodup
      · grind
    · split
      · exact (hs.nodup other).erase enbUe
      · exact hs.nodup other
  · intro e
    rw [mem_enbUeSwitchToEnb]
    exact hs.freeEnbUe e
  · exact hs.freeMmeUe
  · intro e
    rw [mem_enbUeSwitchToEnb]
    exact hs.sourceUe e
  · intro e
    rw [mem_enbUeSwitchToEnb]
    exact hs.targetUe e

/-- Lists and handover pointers only depend on the connections. -/
theorem WellFormed.of_mmeUes (hs : s.WellFormed) (henbUes : t.enbUes = s.enbUes)
    (hlist : t.enbUeList = s.enbUeList)
    (hfree : ∀ y, t.mmeUes.live y = false → t.mmeUes.mem y = none) : t.WellFormed := by
  constructor
  · rw [henbUes, hlist]
    exact hs.list
  · rw [hlist]
    exact hs.nodup
  · rw [henbUes]
    exact hs.freeEnbUe
  · exact hfree
  · rw [henbUes]
    exact hs.sourceUe
  · rw [henbUes]
    exact hs.targetUe

theorem WellFormed.mmeUeAdd (hs : s.WellFormed) : (s.mmeUeAdd mmeUe).WellFormed := by
  refine hs.of_mmeUes rfl rfl fun y hy => ?_
  simp only [Ecm.mmeUeAdd, Pool.live_alloc, Pool.mem_alloc] at hy ⊢
  exact hs.freeMmeUe y (by grind)

theorem WellFormed.mmeUeDeassociate (hs : s.WellFormed) :
    (s.mmeUeDeassociate mmeUe).WellFormed := by
  refine hs.of_mmeUes rfl rfl fun y hy => ?_
  simp only [Ecm.mmeUeDeassociate, Pool.live_modify, Pool.mem_modify] at hy ⊢
  split
  · rfl
  · exact hs.freeMmeUe y hy

theorem WellFormed.mmeUeRemove (hs : s.WellFormed) : (s.mmeUeRemove mmeUe).WellFormed := by
  refine hs.of_mmeUes rfl rfl fun y hy => ?_
  simp only [Ecm.mmeUeRemove, Ecm.mmeUeDeassociate, Pool.live_free, Pool.live_modify,
    Pool.mem_free, Pool.mem_modify] at hy ⊢
  split
  · rfl
  · rename_i hne
    rw [if_neg hne] at hy
    exact hs.freeMmeUe y hy

/-- The connections keep their eNB, and those not in use their missing UE. -/
theorem WellFormed.of_enbUes (hs : s.WellFormed) (hlive : t.enbUes.live = s.enbUes.live)
    (hlist : t.enbUeList = s.enbUeList) (henb : ∀ x, (t.enbUes.mem x).enb = (s.enbUes.mem x).enb)
    (hfree : ∀ x, s.enbUes.live x = false → (t.enbUes.mem x).mmeUe = none)
    (hfreeMmeUe : ∀ y, t.mmeUes.live y = false → t.mmeUes.mem y = none)
    (hself : ∀ x, (t.enbUes.mem x).sourceUe ≠ some x ∧ (t.enbUes.mem x).targetUe ≠ some x) :
    t.WellFormed := by
  constructor
  · intro enb e
    rw [hlist, hlive, henb]
    exact hs.list enb e
  · rw [hlist]
    exact hs.nodup
  · rw [hlive]
    exact hfree
  · exact hfreeMmeUe
  · exact fun e => (hself e).1
  · exact fun e => (hself e).2

theorem WellFormed.enbUeDeassociate (hs : s.WellFormed) :
    (s.enbUeDeassociate enbUe).WellFormed := by
  apply hs.of_enbUes (t := s.enbUeDeassociate enbUe) rfl rfl
  · intro x
    rw [mem_enbUeDeassociate]
  · intro x hx
    rw [mem_enbUeDeassociate]
    have h := hs.freeEnbUe x hx
    grind
  · exact hs.freeMmeUe
  · intro x
    rw [mem_enbUeDeassociate]
    exact ⟨hs.sourceUe x, hs.targetUe x⟩

theorem WellFormed.mmeUeAssociateEnbUe (hs : s.WellFormed) (hmme : s.mmeUes.live mmeUe = true)
    (henb : s.enbUes.live enbUe = true) : (s.mmeUeAssociateEnbUe mmeUe enbUe).WellFormed := by
  apply hs.of_enbUes (t := s.mmeUeAssociateEnbUe mmeUe enbUe) rfl rfl
  · intro x
    rw [mem_mmeUeAssociateEnbUe]
  · intro x hx
    rw [mem_mmeUeAssociateEnbUe]
    have h := hs.freeEnbUe x hx
    grind
  · intro y hy
    simp only [Ecm.mmeUeAssociateEnbUe, Pool.live_modify, Pool.mem_modify] at hy ⊢
    have h := hs.freeMmeUe y hy
    grind
  · intro x
    rw [mem_mmeUeAssociateEnbUe]
    exact ⟨hs.sourceUe x, hs.targetUe x⟩

theorem WellFormed.sourceUeAssociateTargetUe (hs : s.WellFormed)
    (htarget : s.enbUes.live targetUe = true) (hne : sourceUe ≠ targetUe)
    (h : s.sourceUeAssociateTargetUe sourceUe targetUe = .ok t) : t.WellFormed := by
  obtain ⟨mmeUe, -, hmmeUes, hlive, hlist, hmem⟩ := sourceUeAssociateTargetUe_ok hne h
  apply hs.of_enbUes hlive hlist
  · intro x
    rw [hmem]
  · intro x hx
    rw [hmem]
    have hfree := hs.freeEnbUe x hx
    grind
  · rw [hmmeUes]
    exact hs.freeMmeUe
  · intro x
    have hsource := hs.sourceUe x
    have htarget := hs.targetUe x
    rw [hmem]
    grind

theorem WellFormed.clearHandover (hs : s.WellFormed)
    (h : s.clearHandover sourceUe targetUe = .ok t) : t.WellFormed := by
  obtain ⟨hmmeUes, hlive, hlist, hmem⟩ := clearHandover_ok h
  apply hs.of_enbUes hlive hlist
  · intro x
    rw [hmem]
  · intro x hx
    rw [hmem]
    exact hs.freeEnbUe x hx
  · rw [hmmeUes]
    exact hs.freeMmeUe
  · intro x
    have hsource := hs.sourceUe x
    have htarget := hs.targetUe x
    rw [hmem]
    grind

theorem WellFormed.sourceUeDeassociateTargetUe (hs : s.WellFormed)
    (h : s.sourceUeDeassociateTargetUe enbUe = .ok t) : t.WellFormed := by
  unfold Ecm.sourceUeDeassociateTargetUe at h
  split at h
  · exact hs.clearHandover h
  · exact hs.clearHandover h
  · cases h
    exact hs

/-! ## Runs -/

theorem WellFormed.step {op : EcmOp} (hs : s.WellFormed) (hstep : s.Step op t) :
    t.WellFormed := by
  obtain ⟨hadmits, happly⟩ := hstep
  cases op with
  | enbUeAdd enbUe enb =>
    cases happly
    exact hs.enbUeAdd hadmits
  | enbUeRemove enbUe =>
    cases happly
    exact hs.enbUeRemove
  | mmeEnbRemove enb =>
    cases happly
    exact hs.foldl_enbUeRemove _
  | enbUeSwitchToEnb enbUe newEnb =>
    cases happly
    exact hs.enbUeSwitchToEnb hadmits
  | mmeUeAdd mmeUe =>
    cases happly
    exact hs.mmeUeAdd
  | mmeUeRemove mmeUe =>
    cases happly
    exact hs.mmeUeRemove
  | mmeUeAssociateEnbUe mmeUe enbUe =>
    cases happly
    exact hs.mmeUeAssociateEnbUe hadmits.1 hadmits.2
  | enbUeDeassociate enbUe =>
    cases happly
    exact hs.enbUeDeassociate
  | mmeUeDeassociate mmeUe =>
    cases happly
    exact hs.mmeUeDeassociate
  | sourceUeAssociateTargetUe sourceUe targetUe =>
    exact hs.sourceUeAssociateTargetUe hadmits.2.1 hadmits.2.2 happly
  | sourceUeDeassociateTargetUe enbUe => exact hs.sourceUeDeassociateTargetUe happly

/-- Each operation keeps the association exactly under its condition. -/
theorem consistent_iff_keeps {op : EcmOp} (hwf : s.WellFormed) (hs : s.Consistent)
    (hstep : s.Step op t) : t.Consistent ↔ s.Keeps op := by
  obtain ⟨hadmits, happly⟩ := hstep
  cases op with
  | enbUeAdd enbUe enb =>
    cases happly
    exact consistent_enbUeAdd hwf hs hadmits
  | enbUeRemove enbUe =>
    cases happly
    exact consistent_enbUeRemove hwf hs hadmits
  | mmeEnbRemove enb =>
    cases happly
    exact consistent_mmeEnbRemove hwf hs
  | enbUeSwitchToEnb enbUe newEnb =>
    cases happly
    exact iff_of_true (consistent_enbUeSwitchToEnb hs) trivial
  | mmeUeAdd mmeUe =>
    cases happly
    exact iff_of_true (consistent_mmeUeAdd hwf hs hadmits) trivial
  | mmeUeRemove mmeUe =>
    cases happly
    exact consistent_mmeUeRemove hs
  | mmeUeAssociateEnbUe mmeUe enbUe =>
    cases happly
    exact consistent_mmeUeAssociateEnbUe hs hadmits.1 hadmits.2
  | enbUeDeassociate enbUe =>
    cases happly
    exact consistent_enbUeDeassociate hs
  | mmeUeDeassociate mmeUe =>
    cases happly
    exact iff_of_true (consistent_mmeUeDeassociate hs) trivial
  | sourceUeAssociateTargetUe sourceUe targetUe =>
    exact consistent_sourceUeAssociateTargetUe hs hadmits.1 hadmits.2.1 hadmits.2.2 happly
  | sourceUeDeassociateTargetUe enbUe =>
    exact iff_of_true (consistent_sourceUeDeassociateTargetUe hs hadmits happly) trivial

theorem consistent_initial : initial.Consistent := by
  constructor <;> simp [initial]

/-- The association is consistent in every state of a run if and only if each operation
meets its condition. -/
theorem consistent_run_iff (tr : List (EcmOp × Ecm)) (htrace : Lts.Trace Step initial tr) :
    (∀ p ∈ tr, p.2.Consistent) ↔ Lts.Trace (Lts.Restrict Keeps Step) initial tr := by
  apply Lts.Trace.invariant_iff (I := Consistent) (J := WellFormed) (C := Keeps)
  · intro s op t hs hstep
    exact hs.step hstep
  · intro s op t hwf hs hstep
    exact consistent_iff_keeps hwf hs hstep
  · exact htrace
  · exact wellFormed_initial
  · exact consistent_initial

/-- A connection of the eNB 0 and a UE. -/
def added : Ecm := (initial.enbUeAdd 1 0).mmeUeAdd 5

/-- The UE is associated with the connection. -/
def connected : Ecm := added.mmeUeAssociateEnbUe 5 1

theorem step_enbUeAdd : initial.Step (.enbUeAdd 1 0) (initial.enbUeAdd 1 0) := ⟨rfl, rfl⟩

theorem step_mmeUeAdd : (initial.enbUeAdd 1 0).Step (.mmeUeAdd 5) added := ⟨rfl, rfl⟩

theorem step_associate : added.Step (.mmeUeAssociateEnbUe 5 1) connected := ⟨⟨rfl, rfl⟩, rfl⟩

/-- The UE leaves its connection before the connection is removed. -/
theorem consistent_run_release : ∃ tr : List (EcmOp × Ecm), tr.length = 5 ∧
    ∀ p ∈ tr, p.2.Consistent := by
  have hleave : connected.Step (.mmeUeDeassociate 5) (connected.mmeUeDeassociate 5) :=
    ⟨rfl, rfl⟩
  have hremove : (connected.mmeUeDeassociate 5).Step (.enbUeRemove 1)
      ((connected.mmeUeDeassociate 5).enbUeRemove 1) := ⟨rfl, rfl⟩
  refine ⟨_, rfl, (consistent_run_iff _ (.cons step_enbUeAdd (.cons step_mmeUeAdd
    (.cons step_associate (.cons hleave (.cons hremove (.nil _))))))).mpr ?_⟩
  refine .cons ⟨⟨rfl, rfl⟩, step_enbUeAdd⟩ (.cons ⟨trivial, step_mmeUeAdd⟩
    (.cons ⟨?_, step_associate⟩ (.cons ⟨trivial, hleave⟩
      (.cons ⟨⟨?_, rfl, rfl⟩, hremove⟩ (.nil _)))))
  · intro other _ hother
    simp [added, mmeUeAdd, enbUeAdd, initial] at hother
  · intro other _ hother
    simp [connected, added, mmeUeDeassociate, mmeUeAssociateEnbUe, mmeUeAdd, enbUeAdd,
      initial] at hother

/-- The eNB of a connected UE is lost: the UE keeps its pointer to the removed connection. -/
theorem consistent_enb_lost : ¬∀ tr : List (EcmOp × Ecm), Lts.Trace Step initial tr →
    ∀ p ∈ tr, p.2.Consistent := by
  intro hclaim
  have hlost : connected.Step (.mmeEnbRemove 0) (connected.mmeEnbRemove 0) := ⟨trivial, rfl⟩
  have hlast := hclaim _ (.cons step_enbUeAdd (.cons step_mmeUeAdd (.cons step_associate
    (.cons hlost (.nil _))))) _
    (List.mem_cons_of_mem _ (List.mem_cons_of_mem _ (List.mem_cons_of_mem _ List.mem_cons_self)))
  exact absurd (hlast.mmeUe 5 1 rfl rfl).1 Bool.false_ne_true

end Ecm
end NextEpc

import NextEpc.Lib.Pool
import NextEpc.Lib.Trace
import NextEpc.Mme.Context

/-!
# The association of UEs with S1 connections

`mme-context.c`: `mme_ue->enb_ue` and `enb_ue->mme_ue` tie a UE to its S1 connection,
`source_ue` and `target_ue` tie the two connections of a handover. Objects come from pools
and the operations on one side do not look at the other, so that each one keeps the
association only under a condition of its own.
-/

namespace NextEpc

abbrev MmeUeId := Nat

abbrev MmeEnbId := Nat

/-- The part of `enb_ue_t` with pointers to other objects. -/
structure EnbUe where
  enb : MmeEnbId
  mmeUe : Option MmeUeId
  sourceUe : Option EnbUeId
  targetUe : Option EnbUeId

/-- The pools of S1 connections and of UEs, of which `enb_ue` is kept, and the lists of
connections of the eNBs. -/
structure Ecm where
  enbUes : Pool EnbUe
  mmeUes : Pool (Option EnbUeId)
  enbUeList : MmeEnbId → List EnbUeId

namespace Ecm

/-- Pools with cleared memory. -/
def initial : Ecm where
  enbUes := Pool.unused fun _ => ⟨0, none, none, none⟩
  mmeUes := Pool.unused fun _ => none
  enbUeList := fun _ => []

/-! ## Operations -/

def enbUeAdd (s : Ecm) (enbUe : EnbUeId) (enb : MmeEnbId) : Ecm :=
  { s with
    enbUes := (s.enbUes.alloc enbUe).modify enbUe fun e => { e with enb := enb }
    enbUeList := Function.update s.enbUeList enb (s.enbUeList enb ++ [enbUe]) }

def enbUeDeassociate (s : Ecm) (enbUe : EnbUeId) : Ecm :=
  { s with enbUes := s.enbUes.modify enbUe fun e => { e with mmeUe := none } }

def enbUeRemove (s : Ecm) (enbUe : EnbUeId) : Ecm :=
  let s := s.enbUeDeassociate enbUe
  let enb := (s.enbUes.mem enbUe).enb
  { s with
    enbUeList := Function.update s.enbUeList enb ((s.enbUeList enb).erase enbUe)
    enbUes := s.enbUes.free enbUe }

def enbUeRemoveInEnb (s : Ecm) (enb : MmeEnbId) : Ecm :=
  (s.enbUeList enb).foldl enbUeRemove s

def mmeEnbRemove (s : Ecm) (enb : MmeEnbId) : Ecm := s.enbUeRemoveInEnb enb

def enbUeSwitchToEnb (s : Ecm) (enbUe : EnbUeId) (newEnb : MmeEnbId) : Ecm :=
  let enb := (s.enbUes.mem enbUe).enb
  let list := Function.update s.enbUeList enb ((s.enbUeList enb).erase enbUe)
  { s with
    enbUeList := Function.update list newEnb (list newEnb ++ [enbUe])
    enbUes := s.enbUes.modify enbUe fun e => { e with enb := newEnb } }

def mmeUeAdd (s : Ecm) (mmeUe : MmeUeId) : Ecm := { s with mmeUes := s.mmeUes.alloc mmeUe }

def mmeUeDeassociate (s : Ecm) (mmeUe : MmeUeId) : Ecm :=
  { s with mmeUes := s.mmeUes.modify mmeUe fun _ => none }

def mmeUeRemove (s : Ecm) (mmeUe : MmeUeId) : Ecm :=
  let s := s.mmeUeDeassociate mmeUe
  { s with mmeUes := s.mmeUes.free mmeUe }

def mmeUeAssociateEnbUe (s : Ecm) (mmeUe : MmeUeId) (enbUe : EnbUeId) : Ecm :=
  { s with
    mmeUes := s.mmeUes.modify mmeUe fun _ => some enbUe
    enbUes := s.enbUes.modify enbUe fun e => { e with mmeUe := some mmeUe } }

def sourceUeAssociateTargetUe (s : Ecm) (sourceUe targetUe : EnbUeId) : MmeM Ecm := do
  let mmeUe ← Fallible.assertSome .mmeContext (s.enbUes.mem sourceUe).mmeUe
  let enbUes := s.enbUes.modify targetUe fun e =>
    { e with mmeUe := some mmeUe, sourceUe := some sourceUe }
  .ok { s with
    enbUes := enbUes.modify sourceUe fun e => { e with targetUe := some targetUe } }

/-- The end of `source_ue_deassociate_target_ue`. -/
def clearHandover (s : Ecm) (sourceUe targetUe : EnbUeId) : MmeM Ecm := do
  Fallible.assert .mmeContext ((s.enbUes.mem sourceUe).targetUe ≠ none)
  Fallible.assert .mmeContext ((s.enbUes.mem targetUe).sourceUe ≠ none)
  let enbUes := s.enbUes.modify sourceUe fun e => { e with targetUe := none }
  .ok { s with enbUes := enbUes.modify targetUe fun e => { e with sourceUe := none } }

def sourceUeDeassociateTargetUe (s : Ecm) (enbUe : EnbUeId) : MmeM Ecm :=
  match (s.enbUes.mem enbUe).targetUe, (s.enbUes.mem enbUe).sourceUe with
  | some targetUe, _ => s.clearHandover enbUe targetUe
  | none, some sourceUe => s.clearHandover sourceUe enbUe
  | none, none => .ok s

end Ecm

/-! ## Runs -/

inductive EcmOp
  | enbUeAdd (enbUe : EnbUeId) (enb : MmeEnbId)
  | enbUeRemove (enbUe : EnbUeId)
  | mmeEnbRemove (enb : MmeEnbId)
  | enbUeSwitchToEnb (enbUe : EnbUeId) (newEnb : MmeEnbId)
  | mmeUeAdd (mmeUe : MmeUeId)
  | mmeUeRemove (mmeUe : MmeUeId)
  | mmeUeAssociateEnbUe (mmeUe : MmeUeId) (enbUe : EnbUeId)
  | enbUeDeassociate (enbUe : EnbUeId)
  | mmeUeDeassociate (mmeUe : MmeUeId)
  | sourceUeAssociateTargetUe (sourceUe targetUe : EnbUeId)
  | sourceUeDeassociateTargetUe (enbUe : EnbUeId)
  deriving DecidableEq, Repr

namespace Ecm

def apply (s : Ecm) : EcmOp → MmeM Ecm
  | .enbUeAdd enbUe enb => .ok (s.enbUeAdd enbUe enb)
  | .enbUeRemove enbUe => .ok (s.enbUeRemove enbUe)
  | .mmeEnbRemove enb => .ok (s.mmeEnbRemove enb)
  | .enbUeSwitchToEnb enbUe newEnb => .ok (s.enbUeSwitchToEnb enbUe newEnb)
  | .mmeUeAdd mmeUe => .ok (s.mmeUeAdd mmeUe)
  | .mmeUeRemove mmeUe => .ok (s.mmeUeRemove mmeUe)
  | .mmeUeAssociateEnbUe mmeUe enbUe => .ok (s.mmeUeAssociateEnbUe mmeUe enbUe)
  | .enbUeDeassociate enbUe => .ok (s.enbUeDeassociate enbUe)
  | .mmeUeDeassociate mmeUe => .ok (s.mmeUeDeassociate mmeUe)
  | .sourceUeAssociateTargetUe sourceUe targetUe => s.sourceUeAssociateTargetUe sourceUe targetUe
  | .sourceUeDeassociateTargetUe enbUe => s.sourceUeDeassociateTargetUe enbUe

/-- A new object is put into a free slot, the other operations are on objects in use, and a
handover is between two connections. -/
def Admits (s : Ecm) : EcmOp → Prop
  | .enbUeAdd enbUe _ => s.enbUes.live enbUe = false
  | .enbUeRemove enbUe => s.enbUes.live enbUe = true
  | .mmeEnbRemove _ => True
  | .enbUeSwitchToEnb enbUe _ => s.enbUes.live enbUe = true
  | .mmeUeAdd mmeUe => s.mmeUes.live mmeUe = false
  | .mmeUeRemove mmeUe => s.mmeUes.live mmeUe = true
  | .mmeUeAssociateEnbUe mmeUe enbUe =>
    s.mmeUes.live mmeUe = true ∧ s.enbUes.live enbUe = true
  | .enbUeDeassociate enbUe => s.enbUes.live enbUe = true
  | .mmeUeDeassociate mmeUe => s.mmeUes.live mmeUe = true
  | .sourceUeAssociateTargetUe sourceUe targetUe =>
    s.enbUes.live sourceUe = true ∧ s.enbUes.live targetUe = true ∧ sourceUe ≠ targetUe
  | .sourceUeDeassociateTargetUe enbUe => s.enbUes.live enbUe = true

def Step (s : Ecm) (op : EcmOp) (t : Ecm) : Prop := s.Admits op ∧ s.apply op = .ok t

/-- The association is the same from both sides and between objects in use. -/
structure Consistent (s : Ecm) : Prop where
  mmeUe : ∀ mmeUe enbUe, s.mmeUes.live mmeUe = true → s.mmeUes.mem mmeUe = some enbUe →
    s.enbUes.live enbUe = true ∧ (s.enbUes.mem enbUe).mmeUe = some mmeUe
  enbUe : ∀ enbUe mmeUe, s.enbUes.live enbUe = true →
    (s.enbUes.mem enbUe).mmeUe = some mmeUe → s.mmeUes.live mmeUe = true
  sourceUe : ∀ enbUe sourceUe, s.enbUes.live enbUe = true →
    (s.enbUes.mem enbUe).sourceUe = some sourceUe →
    s.enbUes.live sourceUe = true ∧ (s.enbUes.mem sourceUe).targetUe = some enbUe
  targetUe : ∀ enbUe targetUe, s.enbUes.live enbUe = true →
    (s.enbUes.mem enbUe).targetUe = some targetUe →
    s.enbUes.live targetUe = true ∧ (s.enbUes.mem targetUe).sourceUe = some enbUe

/-- No UE in use is associated with the connection. -/
def Unassociated (s : Ecm) (enbUe : EnbUeId) : Prop :=
  ∀ mmeUe, s.mmeUes.live mmeUe = true → s.mmeUes.mem mmeUe ≠ some enbUe

/-- The condition under which an operation keeps the association. -/
def Keeps (s : Ecm) : EcmOp → Prop
  | .enbUeAdd enbUe _ =>
    (s.enbUes.mem enbUe).sourceUe = none ∧ (s.enbUes.mem enbUe).targetUe = none
  | .enbUeRemove enbUe => s.Unassociated enbUe ∧
    (s.enbUes.mem enbUe).sourceUe = none ∧ (s.enbUes.mem enbUe).targetUe = none
  | .mmeEnbRemove enb => ∀ enbUe ∈ s.enbUeList enb, s.Unassociated enbUe ∧
    (∀ sourceUe ∈ (s.enbUes.mem enbUe).sourceUe, sourceUe ∈ s.enbUeList enb) ∧
    (∀ targetUe ∈ (s.enbUes.mem enbUe).targetUe, targetUe ∈ s.enbUeList enb)
  | .mmeUeRemove mmeUe => ∀ enbUe, s.enbUes.live enbUe = true →
    (s.enbUes.mem enbUe).mmeUe ≠ some mmeUe
  | .mmeUeAssociateEnbUe mmeUe enbUe => ∀ other, s.mmeUes.live other = true →
    s.mmeUes.mem other = some enbUe → other = mmeUe
  | .enbUeDeassociate enbUe => s.Unassociated enbUe
  | .sourceUeAssociateTargetUe sourceUe targetUe =>
    (∀ other, s.mmeUes.live other = true → s.mmeUes.mem other = some targetUe →
      (s.enbUes.mem sourceUe).mmeUe = some other) ∧
    (∀ other ∈ (s.enbUes.mem targetUe).sourceUe, other = sourceUe) ∧
    (∀ other ∈ (s.enbUes.mem sourceUe).targetUe, other = targetUe)
  | .enbUeSwitchToEnb _ _ | .mmeUeAdd _ | .mmeUeDeassociate _
  | .sourceUeDeassociateTargetUe _ => True

/-- What holds in every state: the lists hold the connections in use, free slots have no
association, and no connection is its own source or target. -/
structure WellFormed (s : Ecm) : Prop where
  list : ∀ enb enbUe, enbUe ∈ s.enbUeList enb ↔
    s.enbUes.live enbUe = true ∧ (s.enbUes.mem enbUe).enb = enb
  nodup : ∀ enb, (s.enbUeList enb).Nodup
  freeEnbUe : ∀ enbUe, s.enbUes.live enbUe = false → (s.enbUes.mem enbUe).mmeUe = none
  freeMmeUe : ∀ mmeUe, s.mmeUes.live mmeUe = false → s.mmeUes.mem mmeUe = none
  sourceUe : ∀ enbUe, (s.enbUes.mem enbUe).sourceUe ≠ some enbUe
  targetUe : ∀ enbUe, (s.enbUes.mem enbUe).targetUe ≠ some enbUe

variable {s t : Ecm} {enbUe sourceUe targetUe x : EnbUeId} {mmeUe y : MmeUeId}
  {enb newEnb : MmeEnbId}

/-! ## What the operations leave in the objects -/

theorem mem_enbUeAdd : (s.enbUeAdd enbUe enb).enbUes.mem x =
    { s.enbUes.mem x with enb := if x = enbUe then enb else (s.enbUes.mem x).enb } := by
  simp only [enbUeAdd, Pool.mem_modify, Pool.mem_alloc]
  split
  · rename_i h
    rw [h]
  · rfl

theorem mem_enbUeDeassociate : (s.enbUeDeassociate enbUe).enbUes.mem x =
    { s.enbUes.mem x with
      mmeUe := if x = enbUe then none else (s.enbUes.mem x).mmeUe } := by
  simp only [enbUeDeassociate, Pool.mem_modify]
  split
  · rename_i h
    rw [h]
  · rfl

theorem mem_enbUeRemove : (s.enbUeRemove enbUe).enbUes.mem x =
    { s.enbUes.mem x with
      mmeUe := if x = enbUe then none else (s.enbUes.mem x).mmeUe } :=
  mem_enbUeDeassociate

theorem mem_enbUeSwitchToEnb : (s.enbUeSwitchToEnb enbUe newEnb).enbUes.mem x =
    { s.enbUes.mem x with
      enb := if x = enbUe then newEnb else (s.enbUes.mem x).enb } := by
  simp only [enbUeSwitchToEnb, Pool.mem_modify]
  split
  · rename_i h
    rw [h]
  · rfl

theorem mem_mmeUeAssociateEnbUe : (s.mmeUeAssociateEnbUe mmeUe enbUe).enbUes.mem x =
    { s.enbUes.mem x with
      mmeUe := if x = enbUe then some mmeUe else (s.enbUes.mem x).mmeUe } := by
  simp only [mmeUeAssociateEnbUe, Pool.mem_modify]
  split
  · rename_i h
    rw [h]
  · rfl

/-! ## One operation -/

theorem consistent_enbUeAdd (hwf : s.WellFormed) (hs : s.Consistent)
    (hfree : s.enbUes.live enbUe = false) :
    (s.enbUeAdd enbUe enb).Consistent ↔ s.Keeps (.enbUeAdd enbUe enb) := by
  have hlive : ∀ x, (s.enbUeAdd enbUe enb).enbUes.live x =
      if x = enbUe then true else s.enbUes.live x := by
    intro x
    simp [enbUeAdd]
  have hnone := hwf.freeEnbUe enbUe hfree
  obtain ⟨hmmeUe, henbUe, hsourceUe, htargetUe⟩ := hs
  constructor
  · intro ht
    constructor
    · rw [Option.eq_none_iff_forall_ne_some]
      intro sourceUe hsource
      have h := ht.sourceUe enbUe sourceUe (by simp [hlive]) (by simpa [mem_enbUeAdd] using hsource)
      have hne := hwf.sourceUe enbUe
      simp only [hlive, mem_enbUeAdd] at h
      grind
    · rw [Option.eq_none_iff_forall_ne_some]
      intro targetUe htarget
      have h := ht.targetUe enbUe targetUe (by simp [hlive]) (by simpa [mem_enbUeAdd] using htarget)
      have hne := hwf.targetUe enbUe
      simp only [hlive, mem_enbUeAdd] at h
      grind
  · rintro ⟨hsource, htarget⟩
    constructor
    · intro m e
      rw [hlive, mem_enbUeAdd]
      grind [enbUeAdd]
    · intro e m
      rw [hlive, mem_enbUeAdd]
      grind [enbUeAdd]
    · intro e e'
      rw [hlive, hlive, mem_enbUeAdd, mem_enbUeAdd]
      grind
    · intro e e'
      rw [hlive, hlive, mem_enbUeAdd, mem_enbUeAdd]
      grind

theorem consistent_enbUeRemove (hwf : s.WellFormed) (hs : s.Consistent)
    (huse : s.enbUes.live enbUe = true) :
    (s.enbUeRemove enbUe).Consistent ↔ s.Keeps (.enbUeRemove enbUe) := by
  have hlive : ∀ x, (s.enbUeRemove enbUe).enbUes.live x =
      if x = enbUe then false else s.enbUes.live x := by
    intro x
    simp [enbUeRemove, enbUeDeassociate]
  have hmmeUes : (s.enbUeRemove enbUe).mmeUes = s.mmeUes := rfl
  obtain ⟨hmmeUe, henbUe, hsourceUe, htargetUe⟩ := hs
  constructor
  · intro ht
    refine ⟨?_, ?_, ?_⟩
    · intro m hm hassoc
      have h := ht.mmeUe m enbUe hm hassoc
      simp [hlive] at h
    · rw [Option.eq_none_iff_forall_ne_some]
      intro sourceUe hsource
      have hlink := hsourceUe enbUe sourceUe huse hsource
      have h := ht.targetUe sourceUe enbUe
      have hne := hwf.sourceUe enbUe
      simp only [hlive, mem_enbUeRemove] at h
      grind
    · rw [Option.eq_none_iff_forall_ne_some]
      intro targetUe htarget
      have hlink := htargetUe enbUe targetUe huse htarget
      have h := ht.sourceUe targetUe enbUe
      have hne := hwf.targetUe enbUe
      simp only [hlive, mem_enbUeRemove] at h
      grind
  · rintro ⟨hassoc, hsource, htarget⟩
    constructor
    · intro m e hm he
      rw [hlive, mem_enbUeRemove]
      have h := hmmeUe m e hm he
      have hne := hassoc m hm
      grind
    · intro e m
      rw [hlive, mem_enbUeRemove]
      grind
    · intro e e'
      rw [hlive, hlive, mem_enbUeRemove, mem_enbUeRemove]
      grind
    · intro e e'
      rw [hlive, hlive, mem_enbUeRemove, mem_enbUeRemove]
      grind

theorem consistent_enbUeSwitchToEnb (hs : s.Consistent) :
    (s.enbUeSwitchToEnb enbUe newEnb).Consistent := by
  obtain ⟨hmmeUe, henbUe, hsourceUe, htargetUe⟩ := hs
  constructor
  · intro m e
    rw [mem_enbUeSwitchToEnb]
    exact hmmeUe m e
  · intro e m
    rw [mem_enbUeSwitchToEnb]
    exact henbUe e m
  · intro e e'
    rw [mem_enbUeSwitchToEnb, mem_enbUeSwitchToEnb]
    exact hsourceUe e e'
  · intro e e'
    rw [mem_enbUeSwitchToEnb, mem_enbUeSwitchToEnb]
    exact htargetUe e e'

theorem consistent_mmeUeAdd (hwf : s.WellFormed) (hs : s.Consistent)
    (hfree : s.mmeUes.live mmeUe = false) : (s.mmeUeAdd mmeUe).Consistent := by
  have hnone := hwf.freeMmeUe mmeUe hfree
  obtain ⟨hmmeUe, henbUe, hsourceUe, htargetUe⟩ := hs
  constructor
  · intro m e
    simp only [mmeUeAdd, Pool.live_alloc, Pool.mem_alloc]
    grind
  · intro e m
    simp only [mmeUeAdd, Pool.live_alloc]
    grind
  · exact hsourceUe
  · exact htargetUe

theorem consistent_mmeUeRemove (hs : s.Consistent) :
    (s.mmeUeRemove mmeUe).Consistent ↔ s.Keeps (.mmeUeRemove mmeUe) := by
  obtain ⟨hmmeUe, henbUe, hsourceUe, htargetUe⟩ := hs
  constructor
  · intro ht e he hassoc
    have h := ht.enbUe e mmeUe he hassoc
    simp [mmeUeRemove, mmeUeDeassociate] at h
  · intro hkeeps
    constructor
    · intro m e
      simp only [mmeUeRemove, mmeUeDeassociate, Pool.live_free, Pool.live_modify, Pool.mem_free,
        Pool.mem_modify]
      grind
    · intro e m he hassoc
      have hne := hkeeps e he
      simp only [mmeUeRemove, mmeUeDeassociate, Pool.live_free, Pool.live_modify]
      have := henbUe e m he hassoc
      simp only [mmeUeRemove, mmeUeDeassociate] at hassoc
      grind
    · exact hsourceUe
    · exact htargetUe

theorem consistent_mmeUeAssociateEnbUe (hs : s.Consistent)
    (hmme : s.mmeUes.live mmeUe = true) (henb : s.enbUes.live enbUe = true) :
    (s.mmeUeAssociateEnbUe mmeUe enbUe).Consistent ↔
      s.Keeps (.mmeUeAssociateEnbUe mmeUe enbUe) := by
  have hmmeUes : ∀ y, (s.mmeUeAssociateEnbUe mmeUe enbUe).mmeUes.mem y =
      if y = mmeUe then some enbUe else s.mmeUes.mem y := by
    intro y
    simp [mmeUeAssociateEnbUe]
  have hlive : (s.mmeUeAssociateEnbUe mmeUe enbUe).enbUes.live = s.enbUes.live := rfl
  have hlive' : (s.mmeUeAssociateEnbUe mmeUe enbUe).mmeUes.live = s.mmeUes.live := rfl
  obtain ⟨hmmeUe, henbUe, hsourceUe, htargetUe⟩ := hs
  constructor
  · intro ht other hother hassoc
    by_contra hne
    have h := ht.mmeUe other enbUe hother (by rw [hmmeUes, if_neg hne, hassoc])
    rw [mem_mmeUeAssociateEnbUe] at h
    grind
  · intro hkeeps
    constructor
    · intro m e
      rw [hmmeUes, mem_mmeUeAssociateEnbUe, hlive, hlive']
      have := hkeeps m
      grind
    · intro e m
      rw [mem_mmeUeAssociateEnbUe, hlive, hlive']
      grind
    · intro e e'
      rw [mem_mmeUeAssociateEnbUe, mem_mmeUeAssociateEnbUe]
      exact hsourceUe e e'
    · intro e e'
      rw [mem_mmeUeAssociateEnbUe, mem_mmeUeAssociateEnbUe]
      exact htargetUe e e'

theorem consistent_enbUeDeassociate (hs : s.Consistent) :
    (s.enbUeDeassociate enbUe).Consistent ↔ s.Keeps (.enbUeDeassociate enbUe) := by
  obtain ⟨hmmeUe, henbUe, hsourceUe, htargetUe⟩ := hs
  constructor
  · intro ht m hm hassoc
    have h := (ht.mmeUe m enbUe hm hassoc).2
    rw [mem_enbUeDeassociate] at h
    simp at h
  · intro hkeeps
    constructor
    · intro m e hm hassoc
      rw [mem_enbUeDeassociate]
      have h := hmmeUe m e hm hassoc
      have hne := hkeeps m hm
      refine ⟨h.1, ?_⟩
      have hx : e ≠ enbUe := by
        rintro rfl
        exact hne hassoc
      simp [hx, h.2]
    · intro e m
      rw [mem_enbUeDeassociate]
      have h := henbUe e m
      grind [enbUeDeassociate]
    · intro e e'
      rw [mem_enbUeDeassociate, mem_enbUeDeassociate]
      exact hsourceUe e e'
    · intro e e'
      rw [mem_enbUeDeassociate, mem_enbUeDeassociate]
      exact htargetUe e e'

theorem consistent_mmeUeDeassociate (hs : s.Consistent) :
    (s.mmeUeDeassociate mmeUe).Consistent := by
  obtain ⟨hmmeUe, henbUe, hsourceUe, htargetUe⟩ := hs
  constructor
  · intro m e
    simp only [mmeUeDeassociate, Pool.live_modify, Pool.mem_modify]
    grind
  · exact henbUe
  · exact hsourceUe
  · exact htargetUe

/-! ## Handover -/

/-- Both pointers of a handover and the UE of the target are written. -/
theorem sourceUeAssociateTargetUe_ok (hne : sourceUe ≠ targetUe)
    (h : s.sourceUeAssociateTargetUe sourceUe targetUe = .ok t) :
    ∃ mmeUe, (s.enbUes.mem sourceUe).mmeUe = some mmeUe ∧
      t.mmeUes = s.mmeUes ∧ t.enbUes.live = s.enbUes.live ∧ t.enbUeList = s.enbUeList ∧
      ∀ x, t.enbUes.mem x =
        { s.enbUes.mem x with
          mmeUe := if x = targetUe then some mmeUe else (s.enbUes.mem x).mmeUe
          sourceUe := if x = targetUe then some sourceUe else (s.enbUes.mem x).sourceUe
          targetUe := if x = sourceUe then some targetUe else (s.enbUes.mem x).targetUe } := by
  obtain ⟨mmeUe, hmmeUe, h⟩ := Fallible.bind_eq_ok.mp h
  cases h
  refine ⟨mmeUe, Fallible.assertSome_eq_ok.mp hmmeUe, rfl, rfl, rfl, ?_⟩
  intro x
  by_cases hsource : x = sourceUe
  · subst hsource
    simp [hne]
  · by_cases htarget : x = targetUe
    · subst htarget
      simp [hsource]
    · simp [hsource, htarget]

theorem consistent_sourceUeAssociateTargetUe (hs : s.Consistent)
    (hsource : s.enbUes.live sourceUe = true) (htarget : s.enbUes.live targetUe = true)
    (hne : sourceUe ≠ targetUe) (h : s.sourceUeAssociateTargetUe sourceUe targetUe = .ok t) :
    t.Consistent ↔ s.Keeps (.sourceUeAssociateTargetUe sourceUe targetUe) := by
  obtain ⟨mmeUe, hmme, hmmeUes, hlive, -, hmem⟩ := sourceUeAssociateTargetUe_ok hne h
  obtain ⟨hmmeUe, henbUe, hsourceUe, htargetUe⟩ := hs
  constructor
  · intro ht
    refine ⟨?_, ?_, ?_⟩
    · intro other hother hassoc
      have h := (ht.mmeUe other targetUe (by rw [hmmeUes, hother]) (by rw [hmmeUes, hassoc])).2
      rw [hmem] at h
      grind
    · intro other hother
      by_contra hdiff
      have hlink := hsourceUe targetUe other htarget hother
      have h := ht.targetUe other targetUe (by rw [hlive]; exact hlink.1)
      rw [hmem, hmem] at h
      grind
    · intro other hother
      by_contra hdiff
      have hlink := htargetUe sourceUe other hsource hother
      have h := ht.sourceUe other sourceUe (by rw [hlive]; exact hlink.1)
      rw [hmem, hmem] at h
      grind
  · rintro ⟨hassoc, hkeepSource, hkeepTarget⟩
    simp only [Option.mem_def] at hkeepSource hkeepTarget
    constructor
    · intro m e hm he
      rw [hmmeUes] at hm he
      have hlink := hmmeUe m e hm he
      have hkeep := hassoc m hm
      rw [hlive, hmem]
      grind
    · intro e m he
      rw [hlive] at he
      rw [hmem, hmmeUes]
      have hlink := henbUe e m he
      have hlink' := henbUe sourceUe m hsource
      grind
    · intro e e' he
      rw [hlive] at he
      rw [hmem, hmem, hlive]
      have hlink := hsourceUe e e' he
      have hlink' := htargetUe sourceUe e hsource
      grind
    · intro e e' he
      rw [hlive] at he
      rw [hmem, hmem, hlive]
      have hlink := htargetUe e e' he
      have hlink' := hsourceUe targetUe e htarget
      grind

/-- The two pointers of a handover are cleared. -/
theorem clearHandover_ok (h : s.clearHandover sourceUe targetUe = .ok t) :
    t.mmeUes = s.mmeUes ∧ t.enbUes.live = s.enbUes.live ∧ t.enbUeList = s.enbUeList ∧
      ∀ x, t.enbUes.mem x =
        { s.enbUes.mem x with
          sourceUe := if x = targetUe then none else (s.enbUes.mem x).sourceUe
          targetUe := if x = sourceUe then none else (s.enbUes.mem x).targetUe } := by
  obtain ⟨_, _, h⟩ := Fallible.bind_eq_ok.mp h
  obtain ⟨_, _, h⟩ := Fallible.bind_eq_ok.mp h
  cases h
  refine ⟨rfl, rfl, rfl, ?_⟩
  intro x
  by_cases htarget : x = targetUe
  · subst htarget
    by_cases hsource : x = sourceUe
    · simp [hsource]
    · simp [hsource]
  · by_cases hsource : x = sourceUe
    · subst hsource
      simp [htarget]
    · simp [hsource, htarget]

theorem consistent_clearHandover (hs : s.Consistent)
    (hlink : (s.enbUes.mem sourceUe).targetUe = some targetUe ∧
      (s.enbUes.mem targetUe).sourceUe = some sourceUe)
    (h : s.clearHandover sourceUe targetUe = .ok t) : t.Consistent := by
  obtain ⟨hmmeUes, hlive', -, hmem⟩ := clearHandover_ok h
  obtain ⟨hmmeUe, henbUe, hsourceUe, htargetUe⟩ := hs
  constructor
  · intro m e
    rw [hmmeUes, hlive', hmem]
    exact hmmeUe m e
  · intro e m
    rw [hmmeUes, hlive', hmem]
    exact henbUe e m
  · intro e e' he
    rw [hlive'] at he
    rw [hlive', hmem, hmem]
    have := hsourceUe e e' he
    grind
  · intro e e' he
    rw [hlive'] at he
    rw [hlive', hmem, hmem]
    have := htargetUe e e' he
    grind

theorem consistent_sourceUeDeassociateTargetUe (hs : s.Consistent)
    (huse : s.enbUes.live enbUe = true) (h : s.sourceUeDeassociateTargetUe enbUe = .ok t) :
    t.Consistent := by
  unfold sourceUeDeassociateTargetUe at h
  cases htarget : (s.enbUes.mem enbUe).targetUe with
  | some targetUe =>
    rw [htarget] at h
    obtain ⟨-, hsource⟩ := hs.targetUe enbUe targetUe huse htarget
    exact consistent_clearHandover hs ⟨htarget, hsource⟩ h
  | none =>
    rw [htarget] at h
    cases hsource : (s.enbUes.mem enbUe).sourceUe with
    | some sourceUe =>
      rw [hsource] at h
      obtain ⟨-, htarget⟩ := hs.sourceUe enbUe sourceUe huse hsource
      exact consistent_clearHandover hs ⟨htarget, hsource⟩ h
    | none =>
      rw [hsource] at h
      cases h
      exact hs

/-! ## The loss of an eNB -/

theorem live_enbUeRemove : (s.enbUeRemove enbUe).enbUes.live x =
    if x = enbUe then false else s.enbUes.live x := by
  simp [enbUeRemove, enbUeDeassociate]

theorem foldl_enbUeRemove (l : List EnbUeId) (s : Ecm) :
    (l.foldl enbUeRemove s).mmeUes = s.mmeUes ∧
      (∀ x, (l.foldl enbUeRemove s).enbUes.live x = if x ∈ l then false else s.enbUes.live x) ∧
      ∀ x, (l.foldl enbUeRemove s).enbUes.mem x =
        { s.enbUes.mem x with mmeUe := if x ∈ l then none else (s.enbUes.mem x).mmeUe } := by
  induction l generalizing s with
  | nil => exact ⟨rfl, fun _ => by simp, fun _ => by simp⟩
  | cons e l ih =>
    obtain ⟨hmmeUes, hlive, hmem⟩ := ih (s.enbUeRemove e)
    rw [List.foldl_cons]
    refine ⟨hmmeUes, ?_, ?_⟩
    · intro x
      rw [hlive, live_enbUeRemove]
      by_cases hx : x = e
      · simp [hx]
      · simp [hx]
    · intro x
      rw [hmem, mem_enbUeRemove]
      by_cases hx : x = e
      · simp [hx]
      · simp [hx]

theorem consistent_mmeEnbRemove (hwf : s.WellFormed) (hs : s.Consistent) :
    (s.mmeEnbRemove enb).Consistent ↔ s.Keeps (.mmeEnbRemove enb) := by
  obtain ⟨hmmeUes, hlive, hmem⟩ := foldl_enbUeRemove (s.enbUeList enb) s
  obtain ⟨hmmeUe, henbUe, hsourceUe, htargetUe⟩ := hs
  have hlist := hwf.list enb
  constructor
  · intro ht e he
    have huse := ((hlist e).mp he).1
    refine ⟨?_, ?_, ?_⟩
    · intro m hm hassoc
      have h := (ht.mmeUe m e (by rw [mmeEnbRemove, enbUeRemoveInEnb, hmmeUes, hm])
        (by rw [mmeEnbRemove, enbUeRemoveInEnb, hmmeUes, hassoc])).1
      rw [mmeEnbRemove, enbUeRemoveInEnb, hlive, if_pos he] at h
      cases h
    · intro sourceUe hsource
      by_contra hout
      have hlink := hsourceUe e sourceUe huse hsource
      have h := ht.targetUe sourceUe e
      rw [mmeEnbRemove, enbUeRemoveInEnb, hlive, hlive, hmem, hmem, if_neg hout, if_pos he] at h
      cases (h hlink.1 hlink.2).1
    · intro targetUe htarget
      by_contra hout
      have hlink := htargetUe e targetUe huse htarget
      have h := ht.sourceUe targetUe e
      rw [mmeEnbRemove, enbUeRemoveInEnb, hlive, hlive, hmem, hmem, if_neg hout, if_pos he] at h
      cases (h hlink.1 hlink.2).1
  · intro hkeeps
    simp only [Keeps, Option.mem_def] at hkeeps
    unfold mmeEnbRemove enbUeRemoveInEnb
    constructor
    · intro m e hm hassoc
      rw [hmmeUes] at hm hassoc
      have hlink := hmmeUe m e hm hassoc
      have hout : e ∉ s.enbUeList enb := fun he => (hkeeps e he).1 m hm hassoc
      rw [hlive, hmem, if_neg hout, if_neg hout]
      exact hlink
    · intro e m
      rw [hlive, hmem, hmmeUes]
      have hlink := henbUe e m
      grind
    · intro e e'
      rw [hlive, hmem, hlive, hmem]
      have hlink := hsourceUe e e'
      grind
    · intro e e'
      rw [hlive, hmem, hlive, hmem]
      have hlink := htargetUe e e'
      grind

end Ecm
end NextEpc

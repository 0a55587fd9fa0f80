import NextEpc.Lib.Extent
import NextEpc.Gtp.Tlv

/-!
# The layout of TLV messages

The members of a message lie one after the other, each in the room its descriptor asks for.
The builder walks over this layout, and the offset that `tlv_find_desc` computes for a
received element is that of a member of it.
-/

namespace NextEpc

/-- A member of a message: its descriptor, its offset and, for an array, the descriptor
`More` that follows its own. -/
structure TlvField where
  desc : TlvDesc
  offset : Nat
  more : Option TlvDesc

namespace TlvField

/-- The number of elements. -/
def room (f : TlvField) : Nat :=
  match f.more with
  | none => 1
  | some more => more.length

def size (f : TlvField) : Nat := f.desc.vsize * f.room

/-- The address of element `j` in the group of members at `p`. -/
def addr (f : TlvField) (p j : Nat) : Nat := p + f.offset + f.desc.vsize * j

end TlvField

def tlvLayout : Nat → List TlvDesc → List TlvField
  | _, [] => []
  | offset, [desc] => [⟨desc, offset, none⟩]
  | offset, desc :: next :: descs =>
    if next.ctype = .more then
      ⟨desc, offset, some next⟩ :: tlvLayout (offset + desc.vsize * next.length) descs
    else ⟨desc, offset, none⟩ :: tlvLayout (offset + desc.vsize) (next :: descs)

/-- The offset behind the last member. -/
def tlvExtent : Nat → List TlvDesc → Nat
  | offset, [] => offset
  | offset, [desc] => offset + desc.vsize
  | offset, desc :: next :: descs =>
    if next.ctype = .more then tlvExtent (offset + desc.vsize * next.length) descs
    else tlvExtent (offset + desc.vsize) (next :: descs)

namespace TlvType

def IsLeaf (ctype : TlvType) : Prop := ctype ≠ .more ∧ ctype ≠ .compound ∧ ctype ≠ .message

/-- The size of the structure that holds a leaf. -/
def size : TlvType → Nat
  | .fixedStr | .varStr => 24
  | .null => 8
  | _ => 16

end TlvType

/-- A member has a leaf or a compound, room for it, and if it is an array at least one
element. -/
structure TlvField.Wf (f : TlvField) : Prop where
  kind : f.desc.ctype.IsLeaf ∨ f.desc.ctype = .compound
  leaf : f.desc.ctype.IsLeaf → f.desc.ctype.size ≤ f.desc.vsize
  compound : f.desc.ctype = .compound →
    tlvPresenceSize + tlvExtent 0 f.desc.childDescs ≤ f.desc.vsize
  more : ∀ more, f.more = some more → ∃ n, 0 < n ∧ more = ogsTlvDescMore n

/-- The members of a message or a compound, and of the compounds in it. -/
inductive TlvWf : List TlvDesc → Prop
  | mk {descs : List TlvDesc} : (∀ f ∈ tlvLayout 0 descs, f.Wf) →
      (∀ f ∈ tlvLayout 0 descs, f.desc.ctype = .compound → TlvWf f.desc.childDescs) →
      TlvWf descs

/-- The descriptor of a message. -/
structure TlvMessageDesc where
  desc : TlvDesc
  ctype_eq : desc.ctype = .message
  ne_nil : desc.childDescs ≠ []
  wf : TlvWf desc.childDescs

section
variable {f g : TlvField} {o p j k : Nat} {descs : List TlvDesc} {desc : TlvDesc} {tlv : Tlv}

theorem TlvField.Wf.vsize_pos (h : f.Wf) : 0 < f.desc.vsize := by
  rcases h.kind with hleaf | hcompound
  · have hsize := h.leaf hleaf
    have hpos : 0 < f.desc.ctype.size := by
      cases f.desc.ctype <;> decide
    omega
  · have hsize := h.compound hcompound
    simp only [tlvPresenceSize] at hsize
    omega

theorem TlvField.Wf.room_pos (h : f.Wf) : 0 < f.room := by
  unfold TlvField.room
  split
  case h_1 => exact Nat.one_pos
  case h_2 more hmore =>
    obtain ⟨n, hn, rfl⟩ := h.more more hmore
    exact hn

theorem TlvField.Wf.ctype_ne_more (h : f.Wf) : f.desc.ctype ≠ .more := by
  rcases h.kind with hleaf | hcompound
  · exact hleaf.1
  · simp [hcompound]

theorem TlvWf.field (h : TlvWf descs) (hf : f ∈ tlvLayout 0 descs) : f.Wf := by
  cases h with
  | mk hfields _ => exact hfields f hf

theorem TlvWf.child (h : TlvWf descs) (hf : f ∈ tlvLayout 0 descs)
    (hc : f.desc.ctype = .compound) : TlvWf f.desc.childDescs := by
  cases h with
  | mk _ hchild => exact hchild f hf hc

/-! ## Members do not overlap -/

theorem le_tlvExtent (o : Nat) (descs : List TlvDesc) : o ≤ tlvExtent o descs := by
  fun_induction tlvExtent o descs <;> omega

theorem tlvLayout_bounds (hf : f ∈ tlvLayout o descs) :
    o ≤ f.offset ∧ f.offset + f.size ≤ tlvExtent o descs := by
  fun_induction tlvLayout o descs with
  | case1 => cases hf
  | case2 o desc =>
    rw [List.mem_singleton] at hf
    subst hf
    simp [TlvField.size, TlvField.room, tlvExtent]
  | case3 o desc next descs hmore ih =>
    rw [tlvExtent, if_pos hmore]
    rcases List.mem_cons.mp hf with rfl | hf
    · have hle := le_tlvExtent (o + desc.vsize * next.length) descs
      exact ⟨Nat.le_refl o, hle⟩
    · have hbounds := ih hf
      omega
  | case4 o desc next descs hmore ih =>
    rw [tlvExtent, if_neg hmore]
    rcases List.mem_cons.mp hf with rfl | hf
    · have hle := le_tlvExtent (o + desc.vsize) (next :: descs)
      simp only [TlvField.size, TlvField.room, Nat.mul_one]
      exact ⟨Nat.le_refl o, hle⟩
    · have hbounds := ih hf
      omega

theorem tlvLayout_pairwise (o : Nat) (descs : List TlvDesc) :
    (tlvLayout o descs).Pairwise fun f g => f.offset + f.size ≤ g.offset := by
  fun_induction tlvLayout o descs with
  | case1 => exact List.Pairwise.nil
  | case2 => exact List.pairwise_singleton _ _
  | case3 o desc next descs hmore ih =>
    refine List.Pairwise.cons (fun g hg => ?_) ih
    exact (tlvLayout_bounds hg).1
  | case4 o desc next descs hmore ih =>
    refine List.Pairwise.cons (fun g hg => ?_) ih
    have hbounds := (tlvLayout_bounds hg).1
    simpa [TlvField.size, TlvField.room] using hbounds

theorem tlvLayout_disjoint (hf : f ∈ tlvLayout o descs) (hg : g ∈ tlvLayout o descs) :
    f = g ∨ f.offset + f.size ≤ g.offset ∨ g.offset + g.size ≤ f.offset := by
  have hpair := tlvLayout_pairwise o descs
  refine List.Pairwise.forall_of_forall_of_flip (R := fun f g : TlvField =>
    f = g ∨ f.offset + f.size ≤ g.offset ∨ g.offset + g.size ≤ f.offset) ?_ ?_ ?_ hf hg
  · exact fun _ _ => .inl rfl
  · exact hpair.imp fun h => .inr (.inl h)
  · exact hpair.imp fun h => .inr (.inr h)

/-- A member is known by its offset. -/
theorem eq_of_offset (hwf : f.Wf) (hwg : g.Wf) (hf : f ∈ tlvLayout o descs)
    (hg : g ∈ tlvLayout o descs) (h : f.offset = g.offset) : f = g := by
  have hfpos : 0 < f.size := Nat.mul_pos hwf.vsize_pos hwf.room_pos
  have hgpos : 0 < g.size := Nat.mul_pos hwg.vsize_pos hwg.room_pos
  rcases tlvLayout_disjoint hf hg with heq | h' | h'
  · exact heq
  · omega
  · omega

theorem TlvField.elem_le (f : TlvField) {j : Nat} (hj : j < f.room) :
    f.desc.vsize * j + f.desc.vsize ≤ f.size := by
  rw [← Nat.mul_succ, TlvField.size]
  exact Nat.mul_le_mul_left _ hj

/-- The element lies in the group. -/
theorem addr_bounds (hf : f ∈ tlvLayout 0 descs) (hj : j < f.room) :
    p ≤ f.addr p j ∧ f.addr p j + f.desc.vsize ≤ p + tlvExtent 0 descs := by
  have hbounds := tlvLayout_bounds hf
  have hle := f.elem_le hj
  unfold TlvField.addr
  omega

/-- Different elements do not overlap. -/
theorem addr_disjoint (hf : f ∈ tlvLayout 0 descs) (hg : g ∈ tlvLayout 0 descs)
    (hj : j < f.room) (hk : k < g.room) (hne : f ≠ g ∨ j ≠ k) :
    f.addr p j + f.desc.vsize ≤ g.addr p k ∨ g.addr p k + g.desc.vsize ≤ f.addr p j := by
  have hfj := f.elem_le hj
  have hgk := g.elem_le hk
  unfold TlvField.addr
  rcases tlvLayout_disjoint hf hg with rfl | h | h
  · have hjk : j ≠ k := by
      rcases hne with hne | hne
      · exact absurd rfl hne
      · exact hne
    rcases Nat.lt_or_gt_of_ne hjk with h | h
    · have hmul := Nat.mul_le_mul_left f.desc.vsize (Nat.succ_le_of_lt h)
      rw [Nat.mul_succ] at hmul
      omega
    · have hmul := Nat.mul_le_mul_left f.desc.vsize (Nat.succ_le_of_lt h)
      rw [Nat.mul_succ] at hmul
      omega
  · omega
  · omega

/-! ## The member of a received element -/

/-- What an element is for. -/
inductive TlvTarget
  | field (f : TlvField)
  | more
  | none

/-- The first member that an element names; `more` if that is the descriptor `More`. -/
def tlvTarget (tlv : Tlv) : List TlvField → TlvTarget
  | [] => .none
  | f :: fs =>
    if f.desc.names tlv = true then .field f
    else if f.more.any (·.names tlv) = true then .more
    else tlvTarget tlv fs

/-- The descriptor `More` behind the one at index `i`. -/
def tlvNextMore (descs : List TlvDesc) (i : Nat) : Option TlvDesc :=
  descs[i + 1]?.filter fun next => next.ctype = .more

theorem tlvTarget_field {fs : List TlvField} (h : tlvTarget tlv fs = .field f) :
    f ∈ fs ∧ f.desc.names tlv = true := by
  induction fs with
  | nil => cases h
  | cons g fs ih =>
    unfold tlvTarget at h
    split_ifs at h with hg hmore
    · cases h
      exact ⟨List.mem_cons_self, hg⟩
    · exact ⟨List.mem_cons_of_mem _ (ih h).1, (ih h).2⟩

/-- What `tlv_find_desc` returns for a target, if it has started at index `i`. -/
def TlvFound (i : Nat) (descs : List TlvDesc) (r : Option (Nat × Nat × TlvDesc)) :
    TlvTarget → Prop
  | .none => r = none
  | .field f => ∃ k, r = some (i + k, f.offset, f.desc) ∧ tlvNextMore descs k = f.more
  | .more => ∃ k offset desc, r = some (i + k, offset, desc) ∧ desc.ctype = .more ∧
      tlvNextMore descs k = none

theorem TlvFound.cons {i : Nat} {r : Option (Nat × Nat × TlvDesc)} {target : TlvTarget}
    (h : TlvFound (i + 1) descs r target) (desc : TlvDesc) :
    TlvFound i (desc :: descs) r target := by
  cases target with
  | none => exact h
  | field f =>
    obtain ⟨k, hr, hmore⟩ := h
    exact ⟨k + 1, by rw [hr, Nat.add_assoc, Nat.add_comm 1], hmore⟩
  | more =>
    obtain ⟨k, offset, d, hr, hctype, hmore⟩ := h
    exact ⟨k + 1, offset, d, by rw [hr, Nat.add_assoc, Nat.add_comm 1], hctype, hmore⟩

theorem tlvNextMore_head (h : ∀ f ∈ tlvLayout o descs, f.Wf) (desc : TlvDesc) :
    tlvNextMore (desc :: descs) 0 = none := by
  cases descs with
  | nil => rfl
  | cons next descs =>
    have hwf : ∃ f ∈ tlvLayout o (next :: descs), f.desc = next := by
      cases descs with
      | nil => exact ⟨_, List.mem_cons_self, rfl⟩
      | cons d descs =>
        rw [tlvLayout]
        split <;> exact ⟨_, List.mem_cons_self, rfl⟩
    obtain ⟨f, hf, rfl⟩ := hwf
    simp [tlvNextMore, Option.filter, (h f hf).ctype_ne_more]

theorem tlvFindDesc_eq (i : Nat) (prev : Option TlvDesc) (h : ∀ f ∈ tlvLayout o descs, f.Wf) :
    ∃ r, tlvFindDesc tlv i o prev descs = .ok r ∧
      TlvFound i descs r (tlvTarget tlv (tlvLayout o descs)) := by
  fun_induction tlvLayout o descs generalizing i prev with
  | case1 o => exact ⟨none, rfl, rfl⟩
  | case2 o desc =>
    have hne := (h _ List.mem_cons_self).ctype_ne_more
    by_cases hn : desc.names tlv = true
    · refine ⟨some (i, o, desc), by rw [tlvFindDesc, if_pos hn]; rfl, ?_⟩
      simp only [tlvTarget, if_pos hn]
      exact ⟨0, rfl, rfl⟩
    · refine ⟨none, ?_, ?_⟩
      · rw [tlvFindDesc, if_neg hn, if_neg hne]
        rfl
      · simp [tlvTarget, hn, TlvFound]
  | case3 o desc next descs hmore ih =>
    have hne := (h _ List.mem_cons_self).ctype_ne_more
    by_cases hn : desc.names tlv = true
    · refine ⟨some (i, o, desc), by rw [tlvFindDesc, if_pos hn]; rfl, ?_⟩
      simp only [tlvTarget, if_pos hn]
      exact ⟨0, rfl, by simp [tlvNextMore, hmore]⟩
    · have htail : ∀ f ∈ tlvLayout (o + desc.vsize * next.length) descs, f.Wf :=
        fun f hf => h f (List.mem_cons_of_mem _ hf)
      rw [tlvFindDesc, if_neg hn, if_neg hne]
      by_cases hn' : next.names tlv = true
      · refine ⟨some (i + 1, o + desc.vsize, next), by rw [tlvFindDesc, if_pos hn']; rfl, ?_⟩
        simp only [tlvTarget, if_neg hn, Option.any_some, if_pos hn']
        exact ⟨1, _, next, rfl, hmore, tlvNextMore_head htail next⟩
      · obtain ⟨r, hr, hfound⟩ := ih (i + 2) (some next) htail
        have hoffset : o + desc.vsize + desc.vsize * next.length - desc.vsize =
            o + desc.vsize * next.length := by omega
        refine ⟨r, ?_, ?_⟩
        · rw [tlvFindDesc, if_neg hn', if_pos hmore, Fallible.assertSome_some, Fallible.ok_bind,
            Fallible.assert_of hne, Fallible.ok_bind, hoffset]
          exact hr
        · simp only [tlvTarget, if_neg hn, Option.any_some, if_neg hn']
          exact (hfound.cons next).cons desc
  | case4 o desc next descs hmore ih =>
    have hne := (h _ List.mem_cons_self).ctype_ne_more
    by_cases hn : desc.names tlv = true
    · refine ⟨some (i, o, desc), by rw [tlvFindDesc, if_pos hn]; rfl, ?_⟩
      simp only [tlvTarget, if_pos hn]
      exact ⟨0, rfl, by simp [tlvNextMore, Option.filter, hmore]⟩
    · have htail : ∀ f ∈ tlvLayout (o + desc.vsize) (next :: descs), f.Wf :=
        fun f hf => h f (List.mem_cons_of_mem _ hf)
      obtain ⟨r, hr, hfound⟩ := ih (i + 1) (some desc) htail
      refine ⟨r, ?_, ?_⟩
      · rw [tlvFindDesc, if_neg hn, if_neg hne, hr]
      · simp only [tlvTarget, if_neg hn, Option.any_none, Bool.false_eq_true, if_false]
        exact hfound.cons desc

end

end NextEpc

import NextEpc.Gtp.TlvBuild

/-!
# What building a TLV message does to it

The builder hands the renderer pointers into the message, and for that it turns the integers of more
than one octet into network order where they are. So the message that is left is the one that was
built, with the octets of these integers swapped in every leaf that was present.
-/

namespace NextEpc

/-! ## The leaves that are built -/

/-- The structure of a leaf as `tlv_add_leaf` leaves it -/
def TlvDesc.swapped (desc : TlvDesc) (cell : TlvCell) : TlvCell :=
  match desc.ctype with
  | .uint16 => { cell with u16 := Octets.swap16 cell.u16 }
  | .uint24 | .int24 => { cell with u32 := Octets.swap32 (cell.u32 <<< 8) }
  | .uint32 | .int32 => { cell with u32 := Octets.swap32 cell.u32 }
  | _ => cell

/-- The builder comes to the element: it and those before it are present. -/
def TlvField.Reached (f : TlvField) (msg : TlvMsg) (p j : Nat) : Prop :=
  j < f.room ∧ ∀ k ≤ j, (msg (f.addr p k)).presence = true

/-- A leaf of the descriptor `d` at the address `a` is built. -/
inductive TlvLeafAt (msg : TlvMsg) : List TlvDesc → Nat → TlvDesc → Nat → Prop
  | leaf {descs : List TlvDesc} {p j : Nat} {f : TlvField} :
      f ∈ tlvLayout 0 descs → f.Reached msg p j → f.desc.ctype ≠ .compound →
      TlvLeafAt msg descs p f.desc (f.addr p j)
  | compound {descs : List TlvDesc} {p j a : Nat} {f : TlvField} {d : TlvDesc} :
      f ∈ tlvLayout 0 descs → f.Reached msg p j → f.desc.ctype = .compound →
      TlvLeafAt msg f.desc.childDescs (f.addr p j + tlvPresenceSize) d a →
      TlvLeafAt msg descs p d a

/-- A leaf of the element at an address -/
def TlvDesc.LeafIn (desc : TlvDesc) (msg : TlvMsg) (b : Nat) (d : TlvDesc) (a : Nat) : Prop :=
  if desc.ctype = .compound then TlvLeafAt msg desc.childDescs (b + tlvPresenceSize) d a
  else d = desc ∧ a = b

section
variable {descs : List TlvDesc} {f : TlvField} {desc d : TlvDesc} {cell cell' : TlvCell}
  {node : TlvNode} {msg msg' cur : TlvMsg} {p j k a b n levels count : Nat} {nodes : List TlvNode}
  {fs : List TlvField}
  {compound : List TlvDesc → TlvMsg → Nat → TlvM (TlvMsg × List TlvNode × Nat)}

theorem tlvAddLeaf_cell (h : tlvAddLeaf desc cell = .ok (cell', node)) :
    cell' = desc.swapped cell := by
  unfold tlvAddLeaf at h
  unfold TlvDesc.swapped
  cases hctype : desc.ctype with
  | uint8 | int8 | uint16 | uint24 | int24 | uint32 | int32 | null =>
    simp only [hctype, Fallible.pure_eq_ok, Except.ok.injEq, Prod.mk.injEq] at h ⊢
    exact h.1.symm
  | fixedStr =>
    simp only [hctype, Fallible.bind_eq_ok, Fallible.pure_eq_ok, Except.ok.injEq,
      Prod.mk.injEq] at h ⊢
    obtain ⟨value, -, h⟩ := h
    exact h.1.symm
  | varStr =>
    simp only [hctype, Fallible.bind_eq_ok, Fallible.pure_eq_ok, Except.ok.injEq,
      Prod.mk.injEq] at h ⊢
    obtain ⟨-, -, value, -, h⟩ := h
    exact h.1.symm
  | int16 | more | compound | message =>
    simp only [hctype] at h
    cases h

theorem presence_swapped (desc : TlvDesc) (cell : TlvCell) :
    (desc.swapped cell).presence = cell.presence := by
  unfold TlvDesc.swapped
  split <;> rfl

/-- The leaves that are built depend on the presence flags only. -/
theorem TlvLeafAt.congr (hsame : ∀ a, (msg' a).presence = (msg a).presence)
    (h : TlvLeafAt msg descs p d a) : TlvLeafAt msg' descs p d a := by
  induction h with
  | leaf hf hreached hc =>
    exact .leaf hf ⟨hreached.1, fun k hk => by rw [hsame, hreached.2 k hk]⟩ hc
  | compound hf hreached hc _ ih =>
    exact .compound hf ⟨hreached.1, fun k hk => by rw [hsame, hreached.2 k hk]⟩ hc ih

theorem TlvDesc.LeafIn.congr (hsame : ∀ a, (msg' a).presence = (msg a).presence)
    (h : desc.LeafIn msg b d a) : desc.LeafIn msg' b d a := by
  unfold TlvDesc.LeafIn at h ⊢
  split at h
  case isTrue hc =>
    rw [if_pos hc]
    exact TlvLeafAt.congr hsame h
  case isFalse hc =>
    rw [if_neg hc]
    exact h

/-- Leaves lie in the group that they are built for. -/
theorem TlvLeafAt.bounds (hwf : TlvWf descs) (h : TlvLeafAt msg descs p d a) :
    p ≤ a ∧ a < p + tlvExtent 0 descs := by
  induction h with
  | @leaf descs p j f hf hreached hc =>
    have haddr := addr_bounds (p := p) hf hreached.1
    have hpos := (hwf.field hf).vsize_pos
    omega
  | @compound descs p j a f d hf hreached hc _ ih =>
    have hchild := ih (hwf.child hf hc)
    have haddr := addr_bounds (p := p) hf hreached.1
    have hsize := (hwf.field hf).compound hc
    omega

/-- A leaf of an element lies in the room of the element. -/
theorem TlvDesc.LeafIn.bounds (hwf : f.Wf)
    (hchild : f.desc.ctype = .compound → TlvWf f.desc.childDescs)
    (h : f.desc.LeafIn msg b d a) : b ≤ a ∧ a < b + f.desc.vsize := by
  unfold TlvDesc.LeafIn at h
  split at h
  case isTrue hc =>
    have hbounds := TlvLeafAt.bounds (hchild hc) h
    have hsize := hwf.compound hc
    omega
  case isFalse hc =>
    have hpos := hwf.vsize_pos
    obtain ⟨-, rfl⟩ := h
    omega

/-! ## The walk -/

/-- A leaf of an element of a member from a place on, where the builder comes to the element
from that place. -/
def TlvField.LeafFrom (f : TlvField) (msg : TlvMsg) (p k : Nat) (d : TlvDesc) (a : Nat) : Prop :=
  ∃ j, k ≤ j ∧ j < f.room ∧ (∀ i, k ≤ i → i ≤ j → (msg (f.addr p i)).presence = true) ∧
    f.desc.LeafIn msg (f.addr p j) d a

theorem TlvField.LeafFrom.congr (hsame : ∀ a, (msg' a).presence = (msg a).presence)
    (h : f.LeafFrom msg p k d a) : f.LeafFrom msg' p k d a := by
  obtain ⟨j, hkj, hj, hpresent, hleaf⟩ := h
  refine ⟨j, hkj, hj, fun i hi hij => ?_, hleaf.congr hsame⟩
  rw [hsame, hpresent i hi hij]

theorem leafFrom_iff (hsame : ∀ a, (msg' a).presence = (msg a).presence) :
    f.LeafFrom msg' p k d a ↔ f.LeafFrom msg p k d a := by
  constructor
  · exact TlvField.LeafFrom.congr fun b => (hsame b).symm
  · exact TlvField.LeafFrom.congr hsame

/-- The leaves of a group are those of its members. -/
theorem leafAt_iff :
    TlvLeafAt msg descs p d a ↔ ∃ f ∈ tlvLayout 0 descs, f.LeafFrom msg p 0 d a := by
  constructor
  · intro h
    induction h with
    | leaf hf hreached hc =>
      exact ⟨_, hf, _, Nat.zero_le _, hreached.1, fun i _ hi => hreached.2 i hi, by
        rw [TlvDesc.LeafIn, if_neg hc]
        exact ⟨rfl, rfl⟩⟩
    | compound hf hreached hc hleaf _ =>
      exact ⟨_, hf, _, Nat.zero_le _, hreached.1, fun i _ hi => hreached.2 i hi, by
        rw [TlvDesc.LeafIn, if_pos hc]
        exact hleaf⟩
  · rintro ⟨f, hf, j, -, hj, hpresent, hleaf⟩
    have hreached : f.Reached msg p j := ⟨hj, fun i hi => hpresent i (Nat.zero_le i) hi⟩
    by_cases hc : f.desc.ctype = .compound
    · rw [TlvDesc.LeafIn, if_pos hc] at hleaf
      exact .compound hf hreached hc hleaf
    · rw [TlvDesc.LeafIn, if_neg hc] at hleaf
      obtain ⟨rfl, rfl⟩ := hleaf
      exact .leaf hf hreached hc

/-- The builder of the levels below turns the integers of the leaves, and nothing else. -/
def TlvTurns (compound : List TlvDesc → TlvMsg → Nat → TlvM (TlvMsg × List TlvNode × Nat)) :
    Prop :=
  ∀ descs msg p msg' root count, TlvWf descs → compound descs msg p = .ok (msg', root, count) →
    Extent.Rewrites (TlvLeafAt msg descs p) TlvDesc.swapped msg msg'

/-- What the walk needs of a member of a well-formed group. -/
structure TlvField.WfIn (f : TlvField) : Prop where
  wf : f.Wf
  child : f.desc.ctype = .compound → TlvWf f.desc.childDescs

theorem TlvField.WfIn.leafFrom_bounds (hwf : f.WfIn) (h : f.LeafFrom msg p k d a) :
    f.addr p k ≤ a ∧ a < f.addr p f.room := by
  obtain ⟨j, hkj, hj, -, hleaf⟩ := h
  have hbounds := hleaf.bounds hwf.wf hwf.child
  have hfirst := Nat.mul_le_mul_left f.desc.vsize hkj
  have hlast := Nat.mul_le_mul_left f.desc.vsize (Nat.succ_le_of_lt hj)
  rw [Nat.mul_succ] at hlast
  unfold TlvField.addr at hbounds ⊢
  omega

theorem TlvTurns.member (hturns : TlvTurns compound)
    (hchild : desc.ctype = .compound → TlvWf desc.childDescs)
    (h : tlvAddMember compound desc msg b = .ok (msg', node, count)) :
    Extent.Rewrites (desc.LeafIn msg b) TlvDesc.swapped msg msg' := by
  unfold tlvAddMember at h
  split at h
  case isTrue hc =>
    simp only [Fallible.bind_eq_ok, Prod.exists] at h
    obtain ⟨msg₁, root, r, hbuild, -, -, h⟩ := h
    cases h
    refine (hturns _ _ _ _ _ _ (hchild hc) hbuild).congr fun d a => ?_
    rw [TlvDesc.LeafIn, if_pos hc]
  case isFalse hc =>
    simp only [Fallible.bind_eq_ok, Prod.exists] at h
    obtain ⟨cell, leaf, hleaf, h⟩ := h
    cases h
    rw [tlvAddLeaf_cell hleaf]
    refine (Extent.Rewrites.update desc b msg).congr fun d a => ?_
    rw [TlvDesc.LeafIn, if_neg hc]

theorem TlvTurns.more (hturns : TlvTurns compound) (hwf : f.WfIn) (hk : k + n = f.room)
    (h : tlvAddMore compound f.desc n msg (f.addr p k) = .ok (msg', nodes, count)) :
    Extent.Rewrites (f.LeafFrom msg p k) TlvDesc.swapped msg msg' := by
  induction n generalizing k msg nodes count with
  | zero =>
    cases h
    refine .none ?_ _
    rintro d a ⟨j, hkj, hj, -⟩
    omega
  | succ n ih =>
    unfold tlvAddMore at h
    split at h
    case isTrue habsent =>
      cases h
      refine .none ?_ _
      rintro d a ⟨j, hkj, -, hpresent, -⟩
      have hk := hpresent k (Nat.le_refl k) hkj
      rw [habsent] at hk
      cases hk
    case isFalse hpresent =>
      simp only [Fallible.bind_eq_ok, Prod.exists] at h
      obtain ⟨msg₁, node, c, hmember, msg₂, rest, c', hrest, h⟩ := h
      cases h
      have hnext : f.addr p (k + 1) = f.addr p k + f.desc.vsize := by
        simp only [TlvField.addr, Nat.mul_add, Nat.mul_one, Nat.add_assoc]
      rw [← hnext] at hrest
      have hfirst := hturns.member hwf.child hmember
      have hsame := hfirst.apply_eq (g := TlvCell.presence) fun d cell => presence_swapped d cell
      have hothers := (ih (by omega) hrest).congr fun d a => leafFrom_iff hsame
      refine (hfirst.trans hothers ?_).congr ?_
      · intro d d' a hleaf hfrom
        have hin := hleaf.bounds hwf.wf hwf.child
        have hout := hwf.leafFrom_bounds hfrom
        omega
      · intro d a
        constructor
        · rintro (hleaf | ⟨j, hkj, hj, hp, hleaf⟩)
          · refine ⟨k, Nat.le_refl k, by omega, fun i hi hik => ?_, hleaf⟩
            obtain rfl : i = k := by omega
            simpa using hpresent
          · refine ⟨j, by omega, hj, fun i hi hij => ?_, hleaf⟩
            rcases Nat.eq_or_lt_of_le hi with rfl | hi
            · simpa using hpresent
            · exact hp i hi hij
        · rintro ⟨j, hkj, hj, hp, hleaf⟩
          rcases Nat.eq_or_lt_of_le hkj with rfl | hkj
          · exact .inl hleaf
          · exact .inr ⟨j, hkj, hj, fun i hi hij => hp i (by omega) hij, hleaf⟩

theorem TlvTurns.fields (hturns : TlvTurns compound) (hwf : ∀ f ∈ fs, f.WfIn)
    (hpair : fs.Pairwise fun f g => f.offset + f.size ≤ g.offset)
    (h : tlvAddFields compound p fs msg = .ok (msg', nodes, count)) :
    Extent.Rewrites (fun d a => ∃ f ∈ fs, f.LeafFrom msg p 0 d a) TlvDesc.swapped msg msg' := by
  induction fs generalizing msg nodes count with
  | nil =>
    cases h
    refine .none ?_ _
    rintro d a ⟨f, hf, -⟩
    cases hf
  | cons f fs ih =>
    obtain ⟨hbefore, hpair⟩ := List.pairwise_cons.mp hpair
    rw [tlvAddFields] at h
    simp only [Fallible.bind_eq_ok, Prod.exists] at h
    obtain ⟨msg₁, first, c, hmore, msg₂, rest, c', hrest, h⟩ := h
    cases h
    have hf := hwf f List.mem_cons_self
    have hfs : ∀ g ∈ fs, g.WfIn := fun g hg => hwf g (List.mem_cons_of_mem f hg)
    have hfirst := hturns.more hf (Nat.zero_add f.room) hmore
    have hsame := hfirst.apply_eq (g := TlvCell.presence) fun d cell => presence_swapped d cell
    have hothers := ih hfs hpair hrest
    refine (hfirst.trans hothers ?_).congr ?_
    · rintro d d' a hleaf ⟨g, hg, hleaf'⟩
      have hin := hf.leafFrom_bounds hleaf
      have hout := (hfs g hg).leafFrom_bounds hleaf'
      have hle := hbefore g hg
      unfold TlvField.size at hle
      unfold TlvField.addr at hin hout
      omega
    · intro d a
      simp only [List.exists_mem_cons_iff, leafFrom_iff hsame]

theorem tlvAddCompound_turns (levels : Nat) : TlvTurns (tlvAddCompound levels) := by
  induction levels with
  | zero =>
    intro descs msg p msg' root count _ h
    cases h
  | succ levels ih =>
    intro descs msg p msg' root count hwf h
    rw [tlvAddCompound, tlvAddMembers_eq] at h
    have hfields : ∀ f ∈ tlvLayout 0 descs, f.WfIn :=
      fun f hf => ⟨hwf.field hf, hwf.child hf⟩
    refine (ih.fields hfields (tlvLayout_pairwise 0 descs) h).congr fun d a => ?_
    exact leafAt_iff.symm

/-! ## The message that is left -/

/-- The integer of a leaf reads the same in both orders of its octets. -/
def TlvDesc.Palindrome (desc : TlvDesc) (cell : TlvCell) : Prop :=
  match desc.ctype with
  | .uint16 => cell.u16.toNat / 2 ^ 8 = cell.u16.toNat % 2 ^ 8
  | .uint24 | .int24 =>
    cell.u32.toNat < 2 ^ 24 ∧ cell.u32.toNat / 2 ^ 16 = cell.u32.toNat % 2 ^ 8
  | .uint32 | .int32 =>
    cell.u32.toNat / 2 ^ 24 = cell.u32.toNat % 2 ^ 8 ∧
      cell.u32.toNat / 2 ^ 16 % 2 ^ 8 = cell.u32.toNat / 2 ^ 8 % 2 ^ 8
  | _ => True

theorem swapped_eq_iff (desc : TlvDesc) (cell : TlvCell) :
    desc.swapped cell = cell ↔ desc.Palindrome cell := by
  obtain ⟨presence, u8, u16, u32, data, len⟩ := cell
  unfold TlvDesc.swapped TlvDesc.Palindrome
  split <;> simp only [TlvCell.mk.injEq, true_and, and_true]
  · exact Octets.swap16_eq_self_iff
  · exact Octets.swap32_shiftLeft_eq_self_iff
  · exact Octets.swap32_shiftLeft_eq_self_iff
  · exact Octets.swap32_eq_self_iff
  · exact Octets.swap32_eq_self_iff

variable [OgsTlv] {built : TlvMsg} {pkbuf : Bytes}

/-- The integers of the leaves that are present are turned, and nothing else is changed. -/
theorem ogsTlvBuildMsg_rewrites (d : TlvMessageDesc)
    (h : ogsTlvBuildMsg d.desc msg = .ok (built, pkbuf)) :
    Extent.Rewrites (TlvLeafAt msg d.desc.childDescs 0) TlvDesc.swapped msg built := by
  unfold ogsTlvBuildMsg at h
  simp only [Fallible.bind_eq_ok, Prod.exists] at h
  obtain ⟨-, -, -, -, msg₁, root, r, hbuild, -, -, h⟩ := h
  cases h
  exact tlvAddCompound_turns tlvLevels _ _ _ _ _ _ d.wf hbuild

/-- The message is what it was, and building it again gives the same octets, if and only if each
integer of a leaf that is built reads the same in both orders of its octets. -/
theorem ogsTlvBuildMsg_unchanged_iff (d : TlvMessageDesc) (msg built : TlvMsg) (pkbuf : Bytes)
    (h : ogsTlvBuildMsg d.desc msg = .ok (built, pkbuf)) :
    (built = msg ∧ ∃ again, ogsTlvBuildMsg d.desc built = .ok (again, pkbuf)) ↔
      ∀ desc a, TlvLeafAt msg d.desc.childDescs 0 desc a → desc.Palindrome (msg a) := by
  have hrewrites := ogsTlvBuildMsg_rewrites d h
  constructor
  · rintro ⟨heq, -⟩ desc a hleaf
    exact (swapped_eq_iff desc (msg a)).mp (hrewrites.eq_iff.mp heq desc a hleaf)
  · intro hpalindrome
    have heq : built = msg := by
      refine hrewrites.eq_iff.mpr fun desc a hleaf => ?_
      exact (swapped_eq_iff desc (msg a)).mpr (hpalindrome desc a hleaf)
    refine ⟨heq, built, ?_⟩
    rw [heq] at h ⊢
    exact h

end

/-! ## A port number -/

section
attribute [local instance] OgsTlv.reference

/-- A message with a port number. -/
def portNumberMessage : TlvMessageDesc where
  desc := ⟨.message, 0, 0, 0, 0, [⟨.uint16, 126, 2, 0, 16, []⟩]⟩
  ctype_eq := rfl
  ne_nil := by simp
  wf := by
    refine .mk ?_ ?_ <;> simp only [tlvLayout, List.mem_singleton, forall_eq]
    · exact ⟨.inl ⟨by simp, by simp, by simp⟩, fun _ => Nat.le_refl 16, by simp, by simp⟩
    · simp

def portNumberValue (port : UInt16) : TlvMsg := TlvMsg.zeroed.set 0 { presence := true, u16 := port }

/-- The first message has the port number 1, the second one 256. -/
theorem ogsTlvBuildMsg_port_twice : ∃ built again,
    ogsTlvBuildMsg portNumberMessage.desc (portNumberValue 1) = .ok (built, [126, 0, 2, 0, 0, 1]) ∧
    (built 0).u16 = 256 ∧
    ogsTlvBuildMsg portNumberMessage.desc built = .ok (again, [126, 0, 2, 0, 1, 0]) :=
  ⟨_, _, rfl, rfl, rfl⟩

theorem ogsTlvBuildMsg_unchanged_port : ∃ built pkbuf,
    ogsTlvBuildMsg portNumberMessage.desc (portNumberValue 257) = .ok (built, pkbuf) ∧
    ((built = portNumberValue 257 ∧
        ∃ again, ogsTlvBuildMsg portNumberMessage.desc built = .ok (again, pkbuf)) ↔
      ∀ desc a, TlvLeafAt (portNumberValue 257) portNumberMessage.desc.childDescs 0 desc a →
        desc.Palindrome (portNumberValue 257 a)) :=
  ⟨_, _, rfl, ogsTlvBuildMsg_unchanged_iff portNumberMessage (portNumberValue 257) _ _ rfl⟩

end

end NextEpc

import NextEpc.Gtp.TlvLayout

/-!
# What a message holds

The abstract side of the codec: which of a list of elements belongs to which element of which
member, and when a message in memory holds a list of elements. It does not depend on the
order in which the elements are visited, nor on the way their places are found.
-/

namespace NextEpc

section
variable [OgsTlv]

/-! ## Elements and members -/

def TlvField.Takes (fs : List TlvField) (f : TlvField) (tlv : Tlv) : Bool :=
  match tlvTarget tlv fs with
  | .field g => g.offset = f.offset
  | _ => false

/-- The elements of `l` that a member receives. -/
def tlvReceived (descs : List TlvDesc) (f : TlvField) (l : List Tlv) : List Tlv :=
  l.filter (f.Takes (tlvLayout 0 descs))

/-- Those of them that belong to element `j`: an array keeps one in each element, any other
member keeps all, the later ones on top of the earlier. -/
def TlvField.elem (f : TlvField) (m : List Tlv) (j : Nat) : List Tlv :=
  match f.more with
  | none => m
  | some _ => m[j]?.toList

/-- The element that is the next to be filled. -/
def TlvField.next (f : TlvField) (m : List Tlv) : Nat :=
  match f.more with
  | none => 0
  | some _ => m.length

def tlvHeld (descs : List TlvDesc) (f : TlvField) (l : List Tlv) (j : Nat) : List Tlv :=
  f.elem (tlvReceived descs f l) j

/-- The blocks of the elements that belong to element `j`, one after the other. -/
def tlvInner (descs : List TlvDesc) (f : TlvField) (l : List Tlv) (j : Nat) : List Tlv :=
  (tlvHeld descs f l j).flatMap Tlv.block

/-- A received element has the length that a leaf of the type must have. -/
def TlvDesc.LengthOk (desc : TlvDesc) (tlv : Tlv) : Prop :=
  match desc.ctype with
  | .uint8 | .int8 => tlv.length = 1
  | .uint16 | .int16 => tlv.length = 2
  | .uint24 | .int24 => tlv.length = 3
  | .uint32 | .int32 => tlv.length = 4
  | .fixedStr => tlv.length = desc.length
  | .varStr => True
  | .null => tlv.length = 0
  | _ => False

/-- The leaf at an address is the value of an element. -/
def TlvDesc.Holds (desc : TlvDesc) (cell : TlvCell) (value : Bytes) : Prop :=
  match desc.ctype with
  | .uint8 | .int8 => value = [cell.u8]
  | .uint16 | .int16 => value = [UInt8.ofNat (cell.u16.toNat / 2 ^ 8), UInt8.ofNat cell.u16.toNat]
  | .uint24 | .int24 => cell.u32.toNat < 2 ^ 24 ∧
      value = [UInt8.ofNat (cell.u32.toNat / 2 ^ 16), UInt8.ofNat (cell.u32.toNat / 2 ^ 8),
        UInt8.ofNat cell.u32.toNat]
  | .uint32 | .int32 => value = (Octets.htonl cell.u32).toList
  | .fixedStr => cell.data = value ∧ cell.len = value.length ∧ value.length = desc.length
  | .varStr => cell.data = value ∧ cell.len = value.length
  | .null => value = []
  | _ => False

/-! ## Messages -/

/-- The group of members at `p` holds the elements `l`, down to the given level: exactly the
structures they are for are present and hold the last of their elements. If `clear`, nothing
is present inside a compound that is not. -/
def TlvHolds (clear : Prop) : Nat → List TlvDesc → TlvMsg → Nat → List Tlv → Prop
  | 0, _, _, _, _ => True
  | levels + 1, descs, msg, p, l => ∀ f ∈ tlvLayout 0 descs, ∀ j < f.room,
      ((msg (f.addr p j)).presence = true ↔ tlvHeld descs f l j ≠ []) ∧
      (f.desc.ctype.IsLeaf → ∀ tlv ∈ (tlvHeld descs f l j).getLast?,
        f.desc.Holds (msg (f.addr p j)) tlv.value) ∧
      (f.desc.ctype = .compound → clear ∨ tlvHeld descs f l j ≠ [] →
        TlvHolds clear levels f.desc.childDescs msg (f.addr p j + tlvPresenceSize)
          (tlvInner descs f l j))

/-- The structure at address `a`, with descriptor `desc`, is for the element `tlv` of `l`: it
is the member of its type and instance and the array element of its repetition. -/
inductive TlvStoredAt : List TlvDesc → Nat → List Tlv → Nat → TlvDesc → Tlv → Prop
  | here {descs p l f j tlv} : f ∈ tlvLayout 0 descs → j < f.room →
      tlv ∈ tlvHeld descs f l j → TlvStoredAt descs p l (f.addr p j) f.desc tlv
  | inside {descs p l f j a desc tlv} : f ∈ tlvLayout 0 descs → j < f.room →
      f.desc.ctype = .compound →
      TlvStoredAt f.desc.childDescs (f.addr p j + tlvPresenceSize) (tlvInner descs f l j) a desc
        tlv → TlvStoredAt descs p l a desc tlv

/-- Only structures for elements of `l` have been written. -/
def TlvWritten (descs : List TlvDesc) (p : Nat) (l : List Tlv) (msg msg' : TlvMsg) : Prop :=
  ∀ a, msg' a ≠ msg a → ∃ desc tlv, TlvStoredAt descs p l a desc tlv

/-! ## Which element belongs where -/

variable {descs : List TlvDesc} {f g : TlvField} {l l' m : List Tlv} {j k p a : Nat} {tlv : Tlv}
  {clear : Prop} {msg msg' msg'' : TlvMsg} {levels : Nat} {desc : TlvDesc}

omit [OgsTlv] in
theorem takes_iff (hwf : TlvWf descs) (hf : f ∈ tlvLayout 0 descs) :
    f.Takes (tlvLayout 0 descs) tlv = true ↔ tlvTarget tlv (tlvLayout 0 descs) = .field f := by
  unfold TlvField.Takes
  constructor
  · intro h
    split at h
    case h_1 g hg =>
      have hmem := (tlvTarget_field hg).1
      rw [hg, eq_of_offset (hwf.field hmem) (hwf.field hf) hmem hf (of_decide_eq_true h)]
    case h_2 => cases h
  · intro h
    simp [h]

omit [OgsTlv] in
theorem received_append (descs : List TlvDesc) (f : TlvField) (l l' : List Tlv) :
    tlvReceived descs f (l ++ l') = tlvReceived descs f l ++ tlvReceived descs f l' :=
  List.filter_append ..

omit [OgsTlv] in
theorem received_of_target (hwf : TlvWf descs) (hf : f ∈ tlvLayout 0 descs)
    (h : tlvTarget tlv (tlvLayout 0 descs) = .field f) : tlvReceived descs f [tlv] = [tlv] := by
  rw [tlvReceived, List.filter_singleton, (takes_iff hwf hf).mpr h]
  rfl

omit [OgsTlv] in
theorem received_of_ne (hwf : TlvWf descs) (hg : g ∈ tlvLayout 0 descs)
    (h : tlvTarget tlv (tlvLayout 0 descs) = .field f) (hne : g ≠ f) :
    tlvReceived descs g [tlv] = [] := by
  have hnot : ¬g.Takes (tlvLayout 0 descs) tlv = true := by
    rw [takes_iff hwf hg, h]
    rintro ⟨rfl⟩
    exact hne rfl
  simp [tlvReceived, hnot]

omit [OgsTlv] in
/-- A new element goes to the next free one of its member's elements. -/
theorem held_next (hwf : TlvWf descs) (hf : f ∈ tlvLayout 0 descs)
    (h : tlvTarget tlv (tlvLayout 0 descs) = .field f) :
    tlvHeld descs f (l ++ [tlv]) (f.next (tlvReceived descs f l)) =
      tlvHeld descs f l (f.next (tlvReceived descs f l)) ++ [tlv] := by
  rw [tlvHeld, received_append, received_of_target hwf hf h, tlvHeld]
  unfold TlvField.elem TlvField.next
  cases f.more <;> simp

omit [OgsTlv] in
/-- Nothing changes for the other elements. -/
theorem held_other (hwf : TlvWf descs) (hg : g ∈ tlvLayout 0 descs) (hk : k < g.room)
    (h : tlvTarget tlv (tlvLayout 0 descs) = .field f)
    (hne : g ≠ f ∨ k ≠ f.next (tlvReceived descs f l)) :
    tlvHeld descs g (l ++ [tlv]) k = tlvHeld descs g l k := by
  by_cases hgf : g = f
  · subst hgf
    have hk' : k ≠ g.next (tlvReceived descs g l) := by
      rcases hne with hne | hne
      · exact absurd rfl hne
      · exact hne
    rw [tlvHeld, received_append, received_of_target hwf hg h, tlvHeld]
    unfold TlvField.elem
    unfold TlvField.next at hk'
    unfold TlvField.room at hk
    cases hmore : g.more with
    | none =>
      simp only [hmore] at hk hk'
      omega
    | some m =>
      simp only [hmore] at hk'
      rcases Nat.lt_or_gt_of_ne hk' with hlt | hgt
      · rw [List.getElem?_append_left hlt]
      · have hlen : (tlvReceived descs g l ++ [tlv]).length ≤ k := by
          rw [List.length_append, List.length_singleton]
          omega
        rw [List.getElem?_eq_none hlen, List.getElem?_eq_none (by omega)]
  · rw [tlvHeld, received_append, received_of_ne hwf hg h hgf, List.append_nil, tlvHeld]

omit [OgsTlv] in
theorem elem_mono (f : TlvField) (h : l <+: l') (j : Nat) : f.elem l j <+: f.elem l' j := by
  obtain ⟨t, rfl⟩ := h
  unfold TlvField.elem
  split
  case h_1 => exact List.prefix_append l t
  case h_2 =>
    by_cases hj : j < l.length
    · rw [List.getElem?_append_left hj]
    · rw [List.getElem?_eq_none (by omega)]
      exact List.nil_prefix

omit [OgsTlv] in
theorem held_mono (descs : List TlvDesc) (f : TlvField) (h : l <+: l') (j : Nat) :
    tlvHeld descs f l j <+: tlvHeld descs f l' j := by
  obtain ⟨t, rfl⟩ := h
  refine elem_mono f ?_ j
  rw [received_append]
  exact List.prefix_append _ _

theorem inner_mono (descs : List TlvDesc) (f : TlvField) (h : l <+: l') (j : Nat) :
    tlvInner descs f l j <+: tlvInner descs f l' j := by
  obtain ⟨t, ht⟩ := held_mono descs f h j
  rw [tlvInner, tlvInner, ← ht, List.flatMap_append]
  exact List.prefix_append _ _

omit [OgsTlv] in
theorem mem_of_held (h : tlv ∈ tlvHeld descs f l j) :
    tlv ∈ l ∧ f.Takes (tlvLayout 0 descs) tlv = true := by
  have hmem : tlv ∈ tlvReceived descs f l := by
    unfold tlvHeld TlvField.elem at h
    split at h
    case h_1 => exact h
    case h_2 =>
      rw [Option.mem_toList] at h
      exact List.mem_of_getElem? h
  exact List.mem_filter.mp hmem

omit [OgsTlv] in
theorem held_nil (descs : List TlvDesc) (f : TlvField) (j : Nat) : tlvHeld descs f [] j = [] := by
  unfold tlvHeld tlvReceived TlvField.elem
  cases f.more <;> simp

theorem inner_nil (descs : List TlvDesc) (f : TlvField) (j : Nat) : tlvInner descs f [] j = [] := by
  rw [tlvInner, held_nil]
  rfl

/-! ## Places -/

theorem TlvStoredAt.mono (h : TlvStoredAt descs p l a desc tlv) (hl : l <+: l') :
    TlvStoredAt descs p l' a desc tlv := by
  induction h generalizing l' with
  | here hf hj htlv => exact .here hf hj ((held_mono _ _ hl _).subset htlv)
  | inside hf hj hc _ ih => exact .inside hf hj hc (ih (inner_mono _ _ hl _))

theorem TlvStoredAt.ne_nil (h : TlvStoredAt descs p l a desc tlv) : l ≠ [] := by
  induction h with
  | here _ _ hheld =>
    rintro rfl
    rw [held_nil] at hheld
    cases hheld
  | inside _ _ _ _ ih =>
    rintro rfl
    exact ih (inner_nil _ _ _)

/-- The structure lies in its group of members. -/
theorem TlvStoredAt.bounds (h : TlvStoredAt descs p l a desc tlv) (hwf : TlvWf descs) :
    p ≤ a ∧ a + desc.vsize ≤ p + tlvExtent 0 descs := by
  induction h with
  | here hf hj _ => exact addr_bounds hf hj
  | @inside descs p l f j a desc tlv hf hj hc _ ih =>
    have hbounds := addr_bounds (p := p) hf hj
    have hinner := ih (hwf.child hf hc)
    have hsize := (hwf.field hf).compound hc
    omega

/-- There is room for the structure, and it is a leaf or a compound. -/
theorem TlvStoredAt.kind (h : TlvStoredAt descs p l a desc tlv) (hwf : TlvWf descs) :
    0 < desc.vsize ∧ (desc.ctype.IsLeaf → desc.ctype.size ≤ desc.vsize) := by
  induction h with
  | here hf _ _ => exact ⟨(hwf.field hf).vsize_pos, (hwf.field hf).leaf⟩
  | inside hf _ hc _ ih => exact ih (hwf.child hf hc)

theorem TlvWritten.within (h : TlvWritten descs p l msg msg') (hwf : TlvWf descs) :
    Extent.Within p (p + tlvExtent 0 descs) msg msg' := by
  intro a ha
  by_contra hne
  obtain ⟨desc, tlv, hstored⟩ := h a hne
  have hbounds := hstored.bounds hwf
  have hpos := (hstored.kind hwf).1
  omega

theorem TlvWritten.trans (h : TlvWritten descs p l msg msg') (h' : TlvWritten descs p l msg' msg'') :
    TlvWritten descs p l msg msg'' := by
  intro a ha
  by_cases hne : msg' a = msg a
  · refine h' a ?_
    rw [hne]
    exact ha
  · exact h a hne

theorem TlvWritten.mono (h : TlvWritten descs p l msg msg') (hl : l <+: l') :
    TlvWritten descs p l' msg msg' := by
  intro a ha
  obtain ⟨desc, tlv, hstored⟩ := h a ha
  exact ⟨desc, tlv, hstored.mono hl⟩

theorem TlvWritten.refl : TlvWritten descs p l msg msg := fun _ ha => absurd rfl ha

/-! ## Holding -/

/-- A message holds what it held after writes to other places. -/
theorem TlvHolds.congr (hwf : TlvWf descs)
    (hsame : Extent.SameOn p (p + tlvExtent 0 descs) msg msg')
    (h : TlvHolds clear levels descs msg p l) : TlvHolds clear levels descs msg' p l := by
  induction levels generalizing descs p l with
  | zero => trivial
  | succ levels ih =>
    intro f hf j hj
    obtain ⟨hpresence, hleaf, hcompound⟩ := h f hf j hj
    have hbounds := addr_bounds (p := p) hf hj
    have hpos := (hwf.field hf).vsize_pos
    have hcell : msg (f.addr p j) = msg' (f.addr p j) := hsame _ hbounds.1 (by omega)
    rw [hcell] at hpresence hleaf
    refine ⟨hpresence, hleaf, fun hc hclear => ?_⟩
    have hsize := (hwf.field hf).compound hc
    exact ih (hwf.child hf hc) (hsame.mono (by omega) (by omega)) (hcompound hc hclear)

/-- A message that has been cleared holds nothing. -/
theorem tlvHolds_zeroed (levels : Nat) (descs : List TlvDesc) (p : Nat) :
    TlvHolds clear levels descs .zeroed p [] := by
  induction levels generalizing descs p with
  | zero => trivial
  | succ levels ih =>
    intro f hf j hj
    rw [held_nil, inner_nil]
    refine ⟨by simp [TlvMsg.zeroed], ?_, fun _ _ => ih _ _⟩
    intro _ tlv htlv
    cases htlv

/-- The element `tlv` is stored in the next free structure of its member. -/
theorem TlvHolds.store (hwf : TlvWf descs) (hf : f ∈ tlvLayout 0 descs)
    (h : TlvHolds clear (levels + 1) descs msg p l)
    (htarget : tlvTarget tlv (tlvLayout 0 descs) = .field f)
    (hj : f.next (tlvReceived descs f l) = j) (hroom : j < f.room)
    (hwithin : Extent.Within (f.addr p j) (f.addr p j + f.desc.vsize) msg msg')
    (hpresence : (msg' (f.addr p j)).presence = true)
    (hleaf : f.desc.ctype.IsLeaf → f.desc.Holds (msg' (f.addr p j)) tlv.value)
    (hcompound : f.desc.ctype = .compound →
      TlvHolds clear levels f.desc.childDescs msg' (f.addr p j + tlvPresenceSize)
        (tlvInner descs f l j ++ tlv.block)) :
    TlvHolds clear (levels + 1) descs msg' p (l ++ [tlv]) := by
  subst hj
  intro g hg k hk
  by_cases hsame : g = f ∧ k = f.next (tlvReceived descs f l)
  · obtain ⟨rfl, rfl⟩ := hsame
    rw [tlvInner, held_next hwf hf htarget]
    refine ⟨by simp [hpresence], ?_, fun hc _ => ?_⟩
    · intro hl t ht
      rw [List.getLast?_concat, Option.mem_some] at ht
      subst ht
      exact hleaf hl
    · rw [List.flatMap_append, List.flatMap_singleton]
      exact hcompound hc
  · have hne : g ≠ f ∨ k ≠ f.next (tlvReceived descs f l) := by tauto
    have hne' : f ≠ g ∨ f.next (tlvReceived descs f l) ≠ k := by tauto
    have hdisjoint := addr_disjoint (p := p) hf hg hroom hk hne'
    have hsame : Extent.SameOn (g.addr p k) (g.addr p k + g.desc.vsize) msg msg' :=
      hwithin.sameOn hdisjoint.symm
    have hpos := (hwf.field hg).vsize_pos
    have hcell : msg (g.addr p k) = msg' (g.addr p k) := hsame _ (by omega) (by omega)
    obtain ⟨hpresence, hleaf, hcompound⟩ := h g hg k hk
    rw [tlvInner, held_other hwf hg hk htarget hne, ← hcell]
    refine ⟨hpresence, hleaf, fun hc hclear => ?_⟩
    have hsize := (hwf.field hg).compound hc
    exact (hcompound hc hclear).congr (hwf.child hg hc) (hsame.mono (by omega) (by omega))

end

end NextEpc

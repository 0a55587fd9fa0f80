import NextEpc.Gtp.TlvParse

/-!
# The TLV builder

Of a value the builder makes the elements that it holds: one for each structure that is
present, in the order of the layout. The parser accepts them, and they fit.
-/

namespace NextEpc

/-! ## Values -/

/-- The leaf of a value that can be sent. -/
def TlvDesc.CellOk (desc : TlvDesc) (cell : TlvCell) : Prop :=
  match desc.ctype with
  | .uint8 | .int8 | .uint16 | .uint32 | .int32 | .null => True
  | .uint24 | .int24 => cell.u32.toNat < 2 ^ 24
  | .fixedStr => cell.len = desc.length ∧ cell.data.length = cell.len
  | .varStr => 0 < cell.len ∧ cell.data.length = cell.len
  | _ => False

/-- The members at `p` are a value: some member is present, the present elements of an array
are the first ones, and the present members are values. -/
inductive TlvValid (msg : TlvMsg) : List TlvDesc → Nat → Prop
  | mk {descs : List TlvDesc} {p : Nat} :
      (∃ f ∈ tlvLayout 0 descs, ∃ j < f.room, (msg (f.addr p j)).presence = true) →
      (∀ f ∈ tlvLayout 0 descs, ∀ j k, j < k → k < f.room →
        (msg (f.addr p k)).presence = true → (msg (f.addr p j)).presence = true) →
      (∀ f ∈ tlvLayout 0 descs, ∀ j < f.room, (msg (f.addr p j)).presence = true →
        f.desc.ctype ≠ .compound → f.desc.CellOk (msg (f.addr p j))) →
      (∀ f ∈ tlvLayout 0 descs, ∀ j < f.room, (msg (f.addr p j)).presence = true →
        f.desc.ctype = .compound →
        TlvValid msg f.desc.childDescs (f.addr p j + tlvPresenceSize)) →
      TlvValid msg descs p

/-- No two members have the same type and instance, and none has the type of `More`. -/
inductive TlvKeys : List TlvDesc → Prop
  | mk {descs : List TlvDesc} :
      (tlvLayout 0 descs).Pairwise (fun f g =>
        ¬(f.desc.type = g.desc.type ∧ f.desc.inst = g.desc.inst)) →
      (∀ f ∈ tlvLayout 0 descs, f.desc.type ≠ 0) →
      (∀ f ∈ tlvLayout 0 descs, f.desc.ctype = .compound → TlvKeys f.desc.childDescs) →
      TlvKeys descs

/-- Compounds are nested in at most `levels` groups of members. -/
inductive TlvDepth : Nat → List TlvDesc → Prop
  | mk {levels : Nat} {descs : List TlvDesc} :
      (∀ f ∈ tlvLayout 0 descs, f.desc.ctype = .compound → TlvDepth levels f.desc.childDescs) →
      TlvDepth (levels + 1) descs

section
variable [OgsTlv]

/-- Rendering and parsing are inverse on the lists of siblings of a tree of elements. -/
inductive TlvInverse : List TlvNode → Prop
  | mk {root : List TlvNode} : OgsTlv.parseBlock (OgsTlv.render (tlvs root)) = tlvs root →
      (∀ node ∈ root, node.embedded ≠ [] → TlvInverse node.embedded) → TlvInverse root

/-- The elements fit into the members: no array gets more than it has room for. -/
def TlvFits : Nat → List TlvDesc → List Tlv → Prop
  | 0, _, _ => False
  | levels + 1, descs, l => ∀ f ∈ tlvLayout 0 descs,
      (∀ more, f.more = some more → (tlvReceived descs f l).length ≤ more.length) ∧
      (f.desc.ctype = .compound → ∀ j < f.room, tlvHeld descs f l j ≠ [] →
        TlvFits levels f.desc.childDescs (tlvInner descs f l j))

variable {descs : List TlvDesc} {f g : TlvField} {l l' seen : List Tlv} {j k p a n levels : Nat}
  {tlv : Tlv} {msg msg' cur : TlvMsg} {desc : TlvDesc} {cell cell' : TlvCell} {value : Bytes}
  {node : TlvNode} {nodes root : List TlvNode}
  {compound : List TlvDesc → TlvMsg → Nat → TlvM (TlvMsg × List TlvNode × Nat)}

/-! ## Leaves -/

omit [OgsTlv] in
/-- The element of a leaf has the leaf's value. -/
theorem tlvAddLeaf_eq (hcell : desc.CellOk cell) : ∃ cell' value,
    tlvAddLeaf desc cell = .ok (cell', ⟨desc.type, desc.inst, value, []⟩) ∧
      desc.Holds cell value := by
  unfold TlvDesc.CellOk at hcell
  unfold tlvAddLeaf TlvDesc.Holds
  cases hctype : desc.ctype with
  | uint8 | int8 => exact ⟨cell, _, rfl, rfl⟩
  | uint16 => exact ⟨_, _, rfl, Octets.host16_swap16 _⟩
  | uint24 | int24 =>
    simp only [hctype] at hcell
    exact ⟨_, _, rfl, hcell, Octets.host32_swap32_shiftLeft hcell⟩
  | uint32 | int32 => exact ⟨_, _, rfl, Octets.host32_swap32 _⟩
  | fixedStr =>
    simp only [hctype] at hcell
    refine ⟨cell, cell.data, ?_, rfl, hcell.2.symm, by omega⟩
    have hread : cell.read desc.length = .ok cell.data := by
      rw [TlvCell.read, if_pos (by omega), List.take_of_length_le (by omega)]
    simp only [hread]
    rfl
  | varStr =>
    simp only [hctype] at hcell
    refine ⟨cell, cell.data, ?_, rfl, hcell.2.symm⟩
    have hread : cell.read cell.len = .ok cell.data := by
      rw [TlvCell.read, if_pos (by omega), List.take_of_length_le (by omega)]
    simp only [hread, Fallible.assert_of hcell.1]
    rfl
  | null => exact ⟨cell, _, rfl, rfl⟩
  | int16 | more | compound | message => simp [hctype] at hcell

omit [OgsTlv] in
theorem TlvDesc.Holds.lengthOk (h : desc.Holds cell tlv.value) : desc.LengthOk tlv := by
  unfold TlvDesc.Holds at h
  unfold TlvDesc.LengthOk Tlv.length
  cases hctype : desc.ctype <;> simp only [hctype] at h ⊢
  case fixedStr => exact h.2.2
  all_goals simp_all

/-! ## The builder's walk -/

/-- The elements of a member, from a place in the room it has. -/
def tlvAddFields (compound : List TlvDesc → TlvMsg → Nat → TlvM (TlvMsg × List TlvNode × Nat))
    (p : Nat) : List TlvField → TlvMsg → TlvM (TlvMsg × List TlvNode × Nat)
  | [], msg => return (msg, [], 0)
  | f :: fs, msg => do
    let (msg, tlvs, count) ← tlvAddMore compound f.desc f.room msg (f.addr p 0)
    let (msg, tlvs', count') ← tlvAddFields compound p fs msg
    return (msg, tlvs ++ tlvs', count + count')

omit [OgsTlv] in
/-- A member that is not an array is built like an array of one element. -/
theorem tlvAddOne_eq (desc : TlvDesc) (msg : TlvMsg) (a : Nat) :
    tlvAddOne compound desc msg a = tlvAddMore compound desc 1 msg a := by
  unfold tlvAddOne tlvAddMore
  by_cases hp : (msg a).presence = true
  · rw [if_pos hp, if_neg (by simp [hp])]
    rfl
  · rw [if_neg hp, if_pos (by simpa using hp)]

omit [OgsTlv] in
/-- The builder walks over the layout: its places are those of the parser. -/
theorem tlvAddMembers_eq (p o : Nat) (descs : List TlvDesc) (msg : TlvMsg) :
    tlvAddMembers compound p o descs msg = tlvAddFields compound p (tlvLayout o descs) msg := by
  fun_induction tlvLayout o descs generalizing msg with
  | case1 => rfl
  | case2 o desc =>
    have hone : tlvAddOne compound desc msg (p + o) = tlvAddMore compound desc 1 msg (p + o) :=
      tlvAddOne_eq desc msg (p + o)
    rw [tlvAddMembers, hone, tlvAddFields]
    simp only [TlvField.room, TlvField.addr, Nat.mul_zero, Nat.add_zero, tlvAddFields]
    cases tlvAddMore compound desc 1 msg (p + o) with
    | error e => rfl
    | ok r => simp
  | case3 o desc next descs hmore ih =>
    rw [tlvAddMembers, if_pos hmore, tlvAddFields]
    simp only [TlvField.room, TlvField.addr, Nat.mul_zero, Nat.add_zero, ih]
  | case4 o desc next descs hmore ih =>
    rw [tlvAddMembers, if_neg hmore, tlvAddFields]
    simp only [TlvField.room, TlvField.addr, Nat.mul_zero, Nat.add_zero, ih, tlvAddOne_eq]

/-- The elements of a group of members that is a value: there is one, and if rendering can
be undone they are accepted, fit and are what the members hold. -/
structure TlvBuilt (levels : Nat) (descs : List TlvDesc) (msg : TlvMsg) (p : Nat)
    (root : List TlvNode) : Prop where
  ne_nil : root ≠ []
  accepted : TlvInverse root → ∀ tlv ∈ tlvs root, TlvAccepted levels descs tlv
  fits : TlvInverse root → TlvFits levels descs (tlvs root)
  holds : TlvInverse root → TlvHolds False levels descs msg p (tlvs root)

/-- The element of a structure of a member. -/
structure TlvMemberBuilt (levels : Nat) (f : TlvField) (msg : TlvMsg) (a : Nat) (node : TlvNode) :
    Prop where
  type_eq : node.type = f.desc.type
  inst_eq : node.inst = f.desc.inst
  leaf : f.desc.ctype ≠ .compound → node.embedded = [] ∧ f.desc.Holds (msg a) node.value
  compound : f.desc.ctype = .compound →
    TlvBuilt levels f.desc.childDescs msg (a + tlvPresenceSize) node.embedded

/-- The elements of a member: one for each structure that is present, in order. -/
structure TlvFieldBuilt (levels : Nat) (f : TlvField) (msg : TlvMsg) (p k : Nat)
    (nodes : List TlvNode) : Prop where
  presence : ∀ j, k + j < f.room → ((msg (f.addr p (k + j))).presence = true ↔ j < nodes.length)
  length_le : k + nodes.length ≤ f.room
  member : ∀ j node, nodes[j]? = some node →
    TlvMemberBuilt levels f msg (f.addr p (k + j)) node

/-- The builder of the levels below does what it should. The message has been changed
(octets have been swapped) in members that were visited before. -/
def TlvBuilds (levels : Nat)
    (compound : List TlvDesc → TlvMsg → Nat → TlvM (TlvMsg × List TlvNode × Nat)) : Prop :=
  ∀ descs msg cur p, TlvWf descs → TlvKeys descs → TlvDepth levels descs → TlvValid msg descs p →
    Extent.SameOn p (p + tlvExtent 0 descs) msg cur →
    ∃ cur' root count, compound descs cur p = .ok (cur', root, count) ∧ 0 < count ∧
      Extent.Within p (p + tlvExtent 0 descs) cur cur' ∧ TlvBuilt levels descs msg p root

/-- What a member of a value in a well-formed group is. -/
structure TlvMemberOk (levels : Nat) (msg : TlvMsg) (f : TlvField) (p : Nat) : Prop where
  wf : f.Wf
  child : f.desc.ctype = .compound → TlvWf f.desc.childDescs ∧ TlvKeys f.desc.childDescs ∧
    TlvDepth levels f.desc.childDescs
  prefix_closed : ∀ j k, j < k → k < f.room →
    (msg (f.addr p k)).presence = true → (msg (f.addr p j)).presence = true
  leaf : ∀ j < f.room, (msg (f.addr p j)).presence = true →
    f.desc.ctype ≠ .compound → f.desc.CellOk (msg (f.addr p j))
  compound : ∀ j < f.room, (msg (f.addr p j)).presence = true → f.desc.ctype = .compound →
    TlvValid msg f.desc.childDescs (f.addr p j + tlvPresenceSize)

theorem tlvAddMember_eq (hcompound : TlvBuilds levels compound) (hok : TlvMemberOk levels msg f p)
    (hj : j < f.room) (hpresence : (msg (f.addr p j)).presence = true)
    (hsame : Extent.SameOn (f.addr p j) (f.addr p j + f.desc.vsize) msg cur) :
    ∃ cur' node count, tlvAddMember compound f.desc cur (f.addr p j) = .ok (cur', node, count) ∧
      0 < count ∧ Extent.Within (f.addr p j) (f.addr p j + f.desc.vsize) cur cur' ∧
      TlvMemberBuilt levels f msg (f.addr p j) node := by
  have hpos := hok.wf.vsize_pos
  unfold tlvAddMember
  by_cases hc : f.desc.ctype = .compound
  · rw [if_pos hc]
    obtain ⟨hwf, hkeys, hdepth⟩ := hok.child hc
    have hsize := hok.wf.compound hc
    obtain ⟨cur', root, count, hbuild, hcount, hwithin, hbuilt⟩ :=
      hcompound f.desc.childDescs msg cur _ hwf hkeys hdepth (hok.compound j hj hpresence hc)
        (hsame.mono (by omega) (by omega))
    have hroot : 0 < count ∧ root ≠ [] := ⟨hcount, hbuilt.ne_nil⟩
    simp only [hbuild, Fallible.ok_bind, Fallible.assert_of hroot]
    refine ⟨cur', _, _, rfl, by omega, hwithin.mono (by omega) (by omega), rfl, rfl, ?_, ?_⟩
    · exact fun hne => absurd hc hne
    · exact fun _ => hbuilt
  · rw [if_neg hc]
    have hcell : msg (f.addr p j) = cur (f.addr p j) := hsame _ (Nat.le_refl _) (by omega)
    obtain ⟨cell, value, hleaf, hholds⟩ := tlvAddLeaf_eq (hok.leaf j hj hpresence hc)
    rw [← hcell, hleaf, Fallible.ok_bind]
    refine ⟨_, _, _, rfl, Nat.one_pos, .update (Nat.le_refl _) (by omega) _ _, rfl, rfl, ?_, ?_⟩
    · exact fun _ => ⟨rfl, hholds⟩
    · exact fun hc' => absurd hc' hc

theorem tlvAddMore_eq (hcompound : TlvBuilds levels compound) (hok : TlvMemberOk levels msg f p)
    (hk : k + n = f.room)
    (hsame : Extent.SameOn (f.addr p k) (f.addr p f.room) msg cur) :
    ∃ cur' nodes count, tlvAddMore compound f.desc n cur (f.addr p k) = .ok (cur', nodes, count) ∧
      (nodes ≠ [] → 0 < count) ∧ Extent.Within (f.addr p k) (f.addr p f.room) cur cur' ∧
      TlvFieldBuilt levels f msg p k nodes := by
  have hpos := hok.wf.vsize_pos
  induction n generalizing k cur with
  | zero =>
    refine ⟨cur, [], 0, rfl, fun h => absurd rfl h, .refl _ _ _, ?_, ?_, ?_⟩
    · intro j hj
      omega
    · simp only [List.length_nil]
      omega
    · intro j node hnode
      cases hnode
  | succ n ih =>
    have hlt : k < f.room := by omega
    have hnext : f.addr p (k + 1) = f.addr p k + f.desc.vsize := by
      simp only [TlvField.addr, Nat.mul_add, Nat.mul_one, Nat.add_assoc]
    have hend : f.addr p (k + 1) ≤ f.addr p f.room := by
      unfold TlvField.addr
      have hmul := Nat.mul_le_mul_left f.desc.vsize (Nat.succ_le_of_lt hlt)
      rw [Nat.succ_eq_add_one] at hmul
      omega
    have hcell : msg (f.addr p k) = cur (f.addr p k) := hsame _ (Nat.le_refl _) (by omega)
    unfold tlvAddMore
    by_cases hp : (msg (f.addr p k)).presence = true
    · rw [← hcell, if_neg (by simp [hp])]
      obtain ⟨cur', node, count, hmember, hcount, hwithin, hbuilt⟩ :=
        tlvAddMember_eq hcompound hok hlt hp (hsame.mono (Nat.le_refl _) (by omega))
      have hrest : Extent.SameOn (f.addr p (k + 1)) (f.addr p f.room) msg cur' := by
        intro b hb hb'
        rw [hsame b (by omega) hb', hwithin b (by omega)]
      obtain ⟨cur'', nodes, count', hmore, -, hwithin', hpresence, hlength, hmembers⟩ :=
        ih (by omega) hrest
      rw [hnext] at hmore
      simp only [hmember, Fallible.ok_bind, hmore]
      refine ⟨cur'', node :: nodes, count + count', rfl, fun _ => by omega, ?_, ?_, ?_, ?_⟩
      · exact (hwithin.mono (Nat.le_refl _) (by omega)).trans
          (hwithin'.mono (by omega) (Nat.le_refl _))
      · intro j hj
        cases j with
        | zero => simpa using hp
        | succ j =>
          have hj' := hpresence j (by omega)
          rw [Nat.add_assoc, Nat.add_comm 1] at hj'
          rw [hj', List.length_cons]
          omega
      · rw [List.length_cons]
        omega
      · intro j m hm
        cases j with
        | zero =>
          rw [List.getElem?_cons_zero, Option.some.injEq] at hm
          subst hm
          exact hbuilt
        | succ j =>
          have hj' := hmembers j m (by simpa using hm)
          rw [Nat.add_assoc, Nat.add_comm 1] at hj'
          exact hj'
    · rw [← hcell, if_pos (by simpa using hp)]
      refine ⟨cur, [], 0, rfl, fun h => absurd rfl h, .refl _ _ _, ?_, ?_, ?_⟩
      · intro j hj
        simp only [List.length_nil, Nat.not_lt_zero, iff_false]
        intro hpj
        rcases Nat.eq_zero_or_pos j with rfl | hjpos
        · exact hp hpj
        · exact hp (hok.prefix_closed k (k + j) (by omega) hj hpj)
      · simp only [List.length_nil]
        omega
      · intro j node hnode
        cases hnode

theorem tlvAddFields_eq (hcompound : TlvBuilds levels compound) {lo hi : Nat}
    {fs : List TlvField} (hok : ∀ f ∈ fs, TlvMemberOk levels msg f p)
    (hpair : fs.Pairwise fun f g => f.offset + f.size ≤ g.offset)
    (hbounds : ∀ f ∈ fs, lo ≤ f.addr p 0 ∧ f.addr p f.room ≤ hi)
    (hsame : ∀ f ∈ fs, Extent.SameOn (f.addr p 0) (f.addr p f.room) msg cur) :
    ∃ cur' count, ∃ nodes : TlvField → List TlvNode,
      tlvAddFields compound p fs cur = .ok (cur', fs.flatMap nodes, count) ∧
      (fs.flatMap nodes ≠ [] → 0 < count) ∧ Extent.Within lo hi cur cur' ∧
      ∀ f ∈ fs, TlvFieldBuilt levels f msg p 0 (nodes f) := by
  induction fs generalizing cur with
  | nil =>
    refine ⟨cur, 0, fun _ => [], rfl, fun h => absurd rfl h, .refl _ _ _, ?_⟩
    intro f hf
    cases hf
  | cons f fs ih =>
    obtain ⟨hfirst, hpair⟩ := List.pairwise_cons.mp hpair
    have hokf := hok f List.mem_cons_self
    have hbf := hbounds f List.mem_cons_self
    have hsize : 0 < f.size := Nat.mul_pos hokf.wf.vsize_pos hokf.wf.room_pos
    obtain ⟨cur', l, count, hmore, hcount, hwithin, hbuilt⟩ :=
      tlvAddMore_eq hcompound hokf (Nat.zero_add _) (hsame f List.mem_cons_self)
    have hrest : ∀ g ∈ fs, Extent.SameOn (g.addr p 0) (g.addr p g.room) msg cur' := by
      intro g hg b hb hb'
      have hle := hfirst g hg
      have hfb : f.addr p f.room ≤ b := by
        simp only [TlvField.addr, TlvField.size] at hb hle ⊢
        omega
      rw [hsame g (List.mem_cons_of_mem _ hg) b hb hb', hwithin b (.inr hfb)]
    obtain ⟨cur'', count', nodes, hfields, hcount', hwithin', hbuilt'⟩ :=
      ih (fun g hg => hok g (List.mem_cons_of_mem _ hg)) hpair
        (fun g hg => hbounds g (List.mem_cons_of_mem _ hg)) hrest
    have hne : ∀ g ∈ fs, g.offset ≠ f.offset := by
      intro g hg
      have hle := hfirst g hg
      omega
    have hflat : (f :: fs).flatMap (fun g => if g.offset = f.offset then l else nodes g) =
        l ++ fs.flatMap nodes := by
      rw [List.flatMap_cons, if_pos rfl]
      congr 1
      refine List.flatMap_congr fun g hg => ?_
      rw [if_neg (hne g hg)]
    refine ⟨cur'', count + count', fun g => if g.offset = f.offset then l else nodes g, ?_, ?_,
      ?_, ?_⟩
    · rw [hflat, tlvAddFields]
      simp only [hmore, Fallible.ok_bind, hfields]
      rfl
    · rw [hflat]
      intro happend
      by_cases hl : l = []
      · rw [hl, List.nil_append] at happend
        have hpos := hcount' happend
        omega
      · have hpos := hcount hl
        omega
    · exact (hwithin.mono hbf.1 hbf.2).trans hwithin'
    · intro g hg
      rcases List.mem_cons.mp hg with rfl | hg
      · simp only [if_true]
        exact hbuilt
      · simp only [if_neg (hne g hg)]
        exact hbuilt' g hg

/-! ## The elements of a group -/

theorem tlvs_eq_map (nodes : List TlvNode) : tlvs nodes = nodes.map TlvNode.tlv := by
  induction nodes with
  | nil => rw [tlvs, List.map_nil]
  | cons node nodes ih => rw [tlvs, ih, List.map_cons]

omit [OgsTlv] in
/-- With distinct keys an element is for the member whose key it has. -/
theorem tlvTarget_of_key {fs : List TlvField}
    (hkeys : fs.Pairwise fun f g => ¬(f.desc.type = g.desc.type ∧ f.desc.inst = g.desc.inst))
    (htypes : ∀ f ∈ fs, f.desc.type ≠ 0) (hmore : ∀ f ∈ fs, ∀ m, f.more = some m → m.type = 0)
    (hf : f ∈ fs) (htype : tlv.type = f.desc.type) (hinst : tlv.inst = f.desc.inst) :
    tlvTarget tlv fs = .field f := by
  induction fs with
  | nil => cases hf
  | cons g fs ih =>
    obtain ⟨hfirst, hkeys⟩ := List.pairwise_cons.mp hkeys
    rcases List.mem_cons.mp hf with rfl | hf
    · rw [tlvTarget, if_pos]
      simp [TlvDesc.names, htype, hinst]
    · have hg : ¬g.desc.names tlv = true := by
        simpa [TlvDesc.names, htype, hinst] using hfirst f hf
      have hm : ¬g.more.any (·.names tlv) = true := by
        cases hmg : g.more with
        | none => simp
        | some m =>
          have hzero := hmore g List.mem_cons_self m hmg
          have hne := htypes f (List.mem_cons_of_mem _ hf)
          have hnot : m.type ≠ tlv.type := by
            rw [hzero, htype]
            exact hne.symm
          simp [TlvDesc.names, hnot]
      rw [tlvTarget, if_neg hg, if_neg hm]
      exact ih hkeys (fun f hf => htypes f (List.mem_cons_of_mem _ hf))
        (fun f hf => hmore f (List.mem_cons_of_mem _ hf)) hf

theorem TlvNode.tlv_key (node : TlvNode) :
    node.tlv.type = node.type ∧ node.tlv.inst = node.inst := by
  obtain ⟨type, inst, value, _ | ⟨m, ms⟩⟩ := node
  · exact ⟨rfl, rfl⟩
  · exact ⟨rfl, rfl⟩

theorem TlvNode.tlv_value (h : node.embedded = []) : node.tlv.value = node.value := by
  obtain ⟨type, inst, value, _ | ⟨m, ms⟩⟩ := node
  · rfl
  · cases h

theorem TlvNode.tlv_block (h : node.embedded ≠ []) (hinv : TlvInverse node.embedded) :
    node.tlv.block = tlvs node.embedded := by
  obtain ⟨type, inst, value, _ | ⟨m, ms⟩⟩ := node
  · exact absurd rfl h
  · cases hinv with
    | mk heq _ => exact heq

omit [OgsTlv] in
theorem flatMap_single {α β : Type} {l : List α} {F : α → List β} {x : α} (hnodup : l.Nodup)
    (hx : x ∈ l) (h : ∀ y ∈ l, y ≠ x → F y = []) : l.flatMap F = F x := by
  induction l with
  | nil => cases hx
  | cons y l ih =>
    obtain ⟨hy, hnodup⟩ := List.nodup_cons.mp hnodup
    rw [List.flatMap_cons]
    rcases List.mem_cons.mp hx with rfl | hx
    · have hnil : l.flatMap F = [] := by
        rw [List.flatMap_eq_nil_iff]
        intro z hz
        refine h z (List.mem_cons_of_mem _ hz) ?_
        rintro rfl
        exact hy hz
      rw [hnil, List.append_nil]
    · have hyx : y ≠ x := by
        rintro rfl
        exact hy hx
      rw [h y List.mem_cons_self hyx, List.nil_append]
      exact ih hnodup hx fun z hz => h z (List.mem_cons_of_mem _ hz)

/-- A well-formed group of members with the elements that were made for each of them. -/
structure TlvGroup (levels : Nat) (descs : List TlvDesc) (msg : TlvMsg) (p : Nat)
    (nodes : TlvField → List TlvNode) : Prop where
  wf : TlvWf descs
  keys : TlvKeys descs
  built : ∀ f ∈ tlvLayout 0 descs, TlvFieldBuilt levels f msg p 0 (nodes f)

section
variable {nodes : TlvField → List TlvNode}

theorem TlvGroup.member (h : TlvGroup levels descs msg p nodes) (hf : f ∈ tlvLayout 0 descs)
    (hnode : (nodes f)[j]? = some node) : TlvMemberBuilt levels f msg (f.addr p j) node := by
  have hmember := (h.built f hf).member j node hnode
  rwa [Nat.zero_add] at hmember

theorem TlvGroup.target (h : TlvGroup levels descs msg p nodes) (hf : f ∈ tlvLayout 0 descs)
    (hnode : node ∈ nodes f) : tlvTarget node.tlv (tlvLayout 0 descs) = .field f := by
  obtain ⟨j, hj⟩ := List.mem_iff_getElem?.mp hnode
  have hmember := h.member hf hj
  obtain ⟨htype, hinst⟩ := node.tlv_key
  cases h.keys with
  | mk hpair htypes _ =>
    refine tlvTarget_of_key hpair htypes ?_ hf (htype.trans hmember.type_eq)
      (hinst.trans hmember.inst_eq)
    intro g hg m hm
    obtain ⟨n, -, rfl⟩ := (h.wf.field hg).more m hm
    rfl

/-- The elements that a member receives are those that were made for it. -/
theorem TlvGroup.received (h : TlvGroup levels descs msg p nodes) (hf : f ∈ tlvLayout 0 descs) :
    tlvReceived descs f (tlvs ((tlvLayout 0 descs).flatMap nodes)) = (nodes f).map TlvNode.tlv := by
  have hnodup : (tlvLayout 0 descs).Nodup := by
    cases h.keys with
    | mk hpair _ _ =>
      refine hpair.imp fun hne heq => hne ?_
      rw [heq]
      exact ⟨rfl, rfl⟩
  rw [tlvs_eq_map, List.map_flatMap, tlvReceived, List.filter_flatMap]
  have hself : ((nodes f).map TlvNode.tlv).filter (f.Takes (tlvLayout 0 descs)) =
      (nodes f).map TlvNode.tlv := by
    rw [List.filter_eq_self]
    intro t ht
    obtain ⟨node, hnode, rfl⟩ := List.mem_map.mp ht
    exact (takes_iff h.wf hf).mpr (h.target hf hnode)
  rw [flatMap_single hnodup hf, hself]
  intro g hg hne
  rw [List.filter_eq_nil_iff]
  intro t ht
  obtain ⟨node, hnode, rfl⟩ := List.mem_map.mp ht
  rw [takes_iff h.wf hf, h.target hg hnode]
  rintro ⟨rfl⟩
  exact hne rfl

theorem TlvGroup.held (h : TlvGroup levels descs msg p nodes) (hf : f ∈ tlvLayout 0 descs)
    (hj : j < f.room) :
    tlvHeld descs f (tlvs ((tlvLayout 0 descs).flatMap nodes)) j =
      ((nodes f)[j]?.map TlvNode.tlv).toList := by
  rw [tlvHeld, h.received hf]
  unfold TlvField.elem
  cases hmore : f.more with
  | some m => simp
  | none =>
    have hlen := (h.built f hf).length_le
    simp only [TlvField.room, hmore] at hj hlen
    obtain rfl : j = 0 := by omega
    rcases hnodes : nodes f with _ | ⟨node, _ | ⟨m, l⟩⟩
    · rfl
    · rfl
    · rw [hnodes] at hlen
      simp at hlen

theorem TlvGroup.inverse (h : TlvGroup levels descs msg p nodes)
    (hinv : TlvInverse ((tlvLayout 0 descs).flatMap nodes)) (hf : f ∈ tlvLayout 0 descs)
    (hc : f.desc.ctype = .compound) (hnode : (nodes f)[j]? = some node) :
    TlvInverse node.embedded ∧ node.tlv.block = tlvs node.embedded := by
  have hne := ((h.member hf hnode).compound hc).ne_nil
  have hmem : node ∈ (tlvLayout 0 descs).flatMap nodes :=
    List.mem_flatMap.mpr ⟨f, hf, List.mem_of_getElem? hnode⟩
  cases hinv with
  | mk _ hchild =>
    have hembedded := hchild node hmem hne
    exact ⟨hembedded, node.tlv_block hne hembedded⟩

theorem tlvs_ne_nil (h : root ≠ []) : tlvs root ≠ [] := by
  rw [tlvs_eq_map]
  simpa using h

theorem TlvGroup.accepted (h : TlvGroup levels descs msg p nodes)
    (hinv : TlvInverse ((tlvLayout 0 descs).flatMap nodes)) :
    ∀ tlv ∈ tlvs ((tlvLayout 0 descs).flatMap nodes), TlvAccepted (levels + 1) descs tlv := by
  intro tlv htlv
  rw [tlvs_eq_map] at htlv
  obtain ⟨node, hnode, rfl⟩ := List.mem_map.mp htlv
  obtain ⟨f, hf, hnode⟩ := List.mem_flatMap.mp hnode
  obtain ⟨j, hj⟩ := List.mem_iff_getElem?.mp hnode
  have hmember := h.member hf hj
  simp only [TlvAccepted, h.target hf hnode]
  by_cases hc : f.desc.ctype = .compound
  · obtain ⟨hembedded, hblock⟩ := h.inverse hinv hf hc hj
    have hbuilt := hmember.compound hc
    rw [hblock]
    exact .inl ⟨hc, tlvs_ne_nil hbuilt.ne_nil, hbuilt.accepted hembedded⟩
  · obtain ⟨hnil, hholds⟩ := hmember.leaf hc
    rw [← node.tlv_value hnil] at hholds
    exact .inr ⟨hc, hholds.lengthOk⟩

theorem TlvGroup.inner (h : TlvGroup levels descs msg p nodes)
    (hinv : TlvInverse ((tlvLayout 0 descs).flatMap nodes)) (hf : f ∈ tlvLayout 0 descs)
    (hc : f.desc.ctype = .compound) (hj : j < f.room)
    (hheld : tlvHeld descs f (tlvs ((tlvLayout 0 descs).flatMap nodes)) j ≠ []) :
    ∃ node, (nodes f)[j]? = some node ∧ TlvInverse node.embedded ∧
      tlvInner descs f (tlvs ((tlvLayout 0 descs).flatMap nodes)) j = tlvs node.embedded := by
  rw [tlvInner]
  rw [h.held hf hj] at hheld ⊢
  cases hnode : (nodes f)[j]? with
  | none => simp [hnode] at hheld
  | some node =>
    obtain ⟨hembedded, hblock⟩ := h.inverse hinv hf hc hnode
    refine ⟨node, rfl, hembedded, ?_⟩
    simp [hblock]

theorem TlvGroup.fits (h : TlvGroup levels descs msg p nodes)
    (hinv : TlvInverse ((tlvLayout 0 descs).flatMap nodes)) :
    TlvFits (levels + 1) descs (tlvs ((tlvLayout 0 descs).flatMap nodes)) := by
  intro f hf
  refine ⟨fun m hm => ?_, fun hc j hj hheld => ?_⟩
  · have hlen := (h.built f hf).length_le
    simp only [TlvField.room, hm] at hlen
    rw [h.received hf, List.length_map]
    omega
  · obtain ⟨node, hnode, hembedded, hinner⟩ := h.inner hinv hf hc hj hheld
    rw [hinner]
    exact ((h.member hf hnode).compound hc).fits hembedded

theorem TlvGroup.holds (h : TlvGroup levels descs msg p nodes)
    (hinv : TlvInverse ((tlvLayout 0 descs).flatMap nodes)) :
    TlvHolds False (levels + 1) descs msg p (tlvs ((tlvLayout 0 descs).flatMap nodes)) := by
  intro f hf j hj
  refine ⟨?_, fun hleaf t ht => ?_, fun hc hheld => ?_⟩
  · have hpresence := (h.built f hf).presence j (by omega)
    rw [Nat.zero_add] at hpresence
    rw [hpresence, h.held hf hj]
    by_cases hlt : j < (nodes f).length
    · simp [hlt]
    · simp [hlt]
  · rw [h.held hf hj] at ht
    cases hnode : (nodes f)[j]? with
    | none =>
      rw [hnode] at ht
      cases ht
    | some node =>
      rw [hnode] at ht
      obtain rfl : node.tlv = t := Option.some.inj ht
      obtain ⟨hnil, hholds⟩ := (h.member hf hnode).leaf hleaf.2.1
      rw [node.tlv_value hnil]
      exact hholds
  · obtain ⟨node, hnode, hembedded, hinner⟩ :=
      h.inner hinv hf hc hj (hheld.resolve_left id)
    rw [hinner]
    exact ((h.member hf hnode).compound hc).holds hembedded

end

theorem tlvAddCompound_eq (levels : Nat) : TlvBuilds levels (tlvAddCompound levels) := by
  induction levels with
  | zero =>
    intro descs msg cur p _ _ hdepth
    cases hdepth
  | succ levels ih =>
    intro descs msg cur p hwf hkeys hdepth hvalid hsame
    cases hdepth with | mk hdepth =>
    cases hvalid with | mk hsome hfirsts hleaf hcompound =>
    have hok : ∀ f ∈ tlvLayout 0 descs, TlvMemberOk levels msg f p := by
      intro f hf
      refine ⟨hwf.field hf, fun hc => ⟨hwf.child hf hc, ?_, hdepth f hf hc⟩, hfirsts f hf,
        hleaf f hf, hcompound f hf⟩
      cases hkeys with
      | mk _ _ hchild => exact hchild f hf hc
    have hbounds : ∀ f ∈ tlvLayout 0 descs,
        p ≤ f.addr p 0 ∧ f.addr p f.room ≤ p + tlvExtent 0 descs := by
      intro f hf
      have hle := tlvLayout_bounds hf
      simp only [TlvField.addr, TlvField.size] at hle ⊢
      omega
    obtain ⟨cur', count, nodes, hbuild, hcount, hwithin, hbuilt⟩ :=
      tlvAddFields_eq ih hok (tlvLayout_pairwise 0 descs) hbounds
        fun f hf => hsame.mono (hbounds f hf).1 (hbounds f hf).2
    have hgroup : TlvGroup levels descs msg p nodes := ⟨hwf, hkeys, hbuilt⟩
    have hne : (tlvLayout 0 descs).flatMap nodes ≠ [] := by
      obtain ⟨f, hf, j, hj, hpresent⟩ := hsome
      have hpresence := (hbuilt f hf).presence j (by omega)
      rw [Nat.zero_add] at hpresence
      have hlt := hpresence.mp hpresent
      intro hnil
      rw [List.flatMap_eq_nil_iff] at hnil
      rw [hnil f hf] at hlt
      simp at hlt
    refine ⟨cur', _, count, ?_, hcount hne, hwithin, hne, hgroup.accepted, hgroup.fits,
      hgroup.holds⟩
    rw [tlvAddCompound, tlvAddMembers_eq, hbuild]

end

end NextEpc

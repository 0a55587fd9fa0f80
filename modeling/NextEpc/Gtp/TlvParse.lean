import NextEpc.Gtp.TlvHolds

/-!
# The TLV parser

The parser stores every element in the structure that it is for, or returns an error, unless
the received elements do not fit into the message: more elements of one type than the array
has, blocks nested too deeply, or an element that names the descriptor `More`. Then it aborts.
-/

namespace NextEpc

section
variable [OgsTlv]

/-- The parser accepts the element: it names a member and is a leaf of the right length or a
compound all of whose elements are accepted. -/
def TlvAccepted : Nat → List TlvDesc → Tlv → Prop
  | 0, _, _ => False
  | levels + 1, descs, tlv =>
    match tlvTarget tlv (tlvLayout 0 descs) with
    | .field f => (f.desc.ctype = .compound ∧ tlv.block ≠ [] ∧
          ∀ u ∈ tlv.block, TlvAccepted levels f.desc.childDescs u) ∨
        (f.desc.ctype ≠ .compound ∧ f.desc.LengthOk tlv)
    | _ => False

/-- There is no place for the element behind the elements `l`: it names `More`, it is for an
array that `l` has filled, or the elements of its block overflow. -/
def TlvNoRoom (overflow : List TlvDesc → List Tlv → List Tlv → Prop) (descs : List TlvDesc)
    (l : List Tlv) (tlv : Tlv) : Prop :=
  match tlvTarget tlv (tlvLayout 0 descs) with
  | .none => False
  | .more => True
  | .field f => f.room ≤ f.next (tlvReceived descs f l) ∨
      (f.desc.ctype = .compound ∧ tlv.block ≠ [] ∧
        overflow f.desc.childDescs (tlvInner descs f l (f.next (tlvReceived descs f l))) tlv.block)

/-- Of the elements `l`, received behind the elements `seen`, one for which there is no place
comes before any that the parser does not accept. -/
def TlvOverflow : Nat → List TlvDesc → List Tlv → List Tlv → Prop
  | 0, _, _, _ => True
  | levels + 1, descs, seen, l => ∃ pre tlv post, l = pre ++ tlv :: post ∧
      (∀ u ∈ pre, TlvAccepted (levels + 1) descs u) ∧
      TlvNoRoom (TlvOverflow levels) descs (seen ++ pre) tlv

variable {descs : List TlvDesc} {f : TlvField} {l seen : List Tlv} {j k p a n levels : Nat}
  {tlv : Tlv} {msg msg' : TlvMsg} {desc : TlvDesc} {cell : TlvCell}
  {compound : List TlvDesc → TlvMsg → Nat → List Tlv → TlvM (TlvMsg × Rv)}

theorem not_overflow_nil : ¬TlvOverflow (levels + 1) descs seen [] := by
  rintro ⟨pre, tlv, post, h, -⟩
  simp at h

theorem overflow_cons : TlvOverflow (levels + 1) descs seen (tlv :: l) ↔
    TlvNoRoom (TlvOverflow levels) descs seen tlv ∨
      (TlvAccepted (levels + 1) descs tlv ∧ TlvOverflow (levels + 1) descs (seen ++ [tlv]) l) := by
  constructor
  · rintro ⟨pre, u, post, heq, hpre, hroom⟩
    cases pre with
    | nil =>
      obtain ⟨rfl, rfl⟩ := List.cons.inj heq
      rw [List.append_nil] at hroom
      exact .inl hroom
    | cons v pre =>
      obtain ⟨rfl, rfl⟩ := List.cons.inj heq
      refine .inr ⟨hpre tlv List.mem_cons_self, pre, u, post, rfl, ?_, ?_⟩
      · exact fun w hw => hpre w (List.mem_cons_of_mem _ hw)
      · rw [List.append_assoc]
        exact hroom
  · rintro (hroom | ⟨hacc, pre, u, post, rfl, hpre, hroom⟩)
    · refine ⟨[], tlv, l, rfl, fun u hu => (by cases hu), ?_⟩
      rw [List.append_nil]
      exact hroom
    · refine ⟨tlv :: pre, u, post, rfl, ?_, ?_⟩
      · intro w hw
        rcases List.mem_cons.mp hw with rfl | hw
        · exact hacc
        · exact hpre w hw
      · rw [List.append_assoc] at hroom
        exact hroom

/-! ## The place of an element -/

omit [OgsTlv] in
/-- The first free element of an array whose first `k` elements are present. -/
theorem tlvFindRoom_eq {v : Nat}
    (h : ∀ j < n, (msg (a + v * j)).presence = true ↔ j < k) :
    tlvFindRoom msg a v n = if k < n then some k else none := by
  unfold tlvFindRoom
  split_ifs with hk
  · rw [List.find?_range_eq_some]
    refine ⟨?_, List.mem_range.mpr hk, ?_⟩
    · have hkk := (h k hk).not.mpr (Nat.lt_irrefl k)
      simpa using hkk
    · intro j hj
      have hjk := (h j (by omega)).mpr hj
      simp [hjk]
  · rw [List.find?_eq_none]
    intro j hj
    have hjn := List.mem_range.mp hj
    have hjk := (h j hjn).mpr (by omega)
    simp [hjk]

/-- The present elements of an array are the first ones. -/
theorem TlvHolds.presence (h : TlvHolds True (levels + 1) descs msg p seen)
    (hf : f ∈ tlvLayout 0 descs) {more : TlvDesc} (hmore : f.more = some more)
    (hj : j < more.length) :
    (msg (p + f.offset + f.desc.vsize * j)).presence = true ↔
      j < (tlvReceived descs f seen).length := by
  have hroom : j < f.room := by
    simp only [TlvField.room, hmore]
    exact hj
  rw [← TlvField.addr, (h f hf j hroom).1, tlvHeld, TlvField.elem, hmore]
  simp only
  by_cases hlt : j < (tlvReceived descs f seen).length
  · simp [hlt]
  · simp [hlt]

theorem tlvRoomOffset_eq (h : TlvHolds True (levels + 1) descs msg p seen)
    (hf : f ∈ tlvLayout 0 descs) {i : Nat} (hmore : tlvNextMore descs i = f.more) :
    tlvRoomOffset descs p msg i f.offset f.desc =
      if f.next (tlvReceived descs f seen) < f.room then
        .ok (f.offset + f.desc.vsize * f.next (tlvReceived descs f seen))
      else .error (.assert .parseCompound) := by
  unfold tlvRoomOffset
  unfold tlvNextMore at hmore
  cases hnext : descs[i + 1]? with
  | none =>
    rw [hnext, Option.filter_none] at hmore
    simp [TlvField.next, TlvField.room, ← hmore]
  | some next =>
    by_cases hctype : next.ctype = .more
    · have hfmore : f.more = some next := by
        rw [← hmore, hnext, Option.filter_some_pos (by simp [hctype])]
      have hfree : tlvFindRoom msg (p + f.offset) f.desc.vsize next.length =
          if (tlvReceived descs f seen).length < next.length then
            some (tlvReceived descs f seen).length
          else none :=
        tlvFindRoom_eq fun j hj => h.presence hf hfmore hj
      simp only [if_pos hctype, hfree, TlvField.next, TlvField.room, hfmore]
      by_cases hroom : (tlvReceived descs f seen).length < next.length
      · rw [if_pos hroom, if_pos hroom]
        rfl
      · rw [if_neg hroom, if_neg hroom]
        rfl
    · have hfmore : f.more = none := by
        rw [← hmore, hnext, Option.filter_some_neg (by simp [hctype])]
      simp [if_neg hctype, TlvField.next, TlvField.room, hfmore]

/-! ## Leaves -/

/-- A leaf takes the value of an element of the right length and refuses any other. -/
def TlvLeafParsed (desc : TlvDesc) (cell : TlvCell) (tlv : Tlv) : Prop :=
  (desc.LengthOk tlv ∧ ∃ cell', tlvParseLeaf cell desc tlv = .ok (cell', .ok) ∧
    desc.Holds { cell' with presence := true } tlv.value) ∨
  (¬desc.LengthOk tlv ∧ tlvParseLeaf cell desc tlv = .ok (cell, .error))

omit [OgsTlv] in
theorem tlvParseLeaf_eq (hleaf : desc.ctype.IsLeaf) (cell : TlvCell) (tlv : Tlv) :
    TlvLeafParsed desc cell tlv := by
  obtain ⟨type, inst, value⟩ := tlv
  unfold TlvLeafParsed TlvDesc.LengthOk TlvDesc.Holds tlvParseLeaf Tlv.length
  cases hctype : desc.ctype with
  | uint8 | int8 =>
    rcases value with _ | ⟨a, _ | ⟨b, value⟩⟩
    · simp
    · simp
    · simp
  | uint16 | int16 =>
    rcases value with _ | ⟨a, _ | ⟨b, _ | ⟨c, value⟩⟩⟩
    · simp
    · simp
    · refine .inl ⟨rfl, _, rfl, ?_⟩
      simp only [Octets.toNat_two, Octets.octets_two]
    · simp
  | uint24 | int24 =>
    rcases value with _ | ⟨a, _ | ⟨b, _ | ⟨c, _ | ⟨d, value⟩⟩⟩⟩
    · simp
    · simp
    · simp
    · refine .inl ⟨rfl, _, rfl, ?_⟩
      have ha := a.toNat_lt
      have hb := b.toNat_lt
      have hc := c.toNat_lt
      simp only [Octets.toNat_three, Octets.octets_three, and_true]
      omega
    · simp
  | uint32 | int32 =>
    rcases value with _ | ⟨a, _ | ⟨b, _ | ⟨c, _ | ⟨d, _ | ⟨e, value⟩⟩⟩⟩⟩
    · simp
    · simp
    · simp
    · simp
    · refine .inl ⟨rfl, _, rfl, ?_⟩
      simp only [Octets.htonl_four]
    · simp
  | fixedStr =>
    by_cases hlen : value.length = desc.length
    · refine .inl ⟨hlen, _, by rw [if_neg (not_not.mpr hlen)]; rfl, rfl, rfl, hlen⟩
    · exact .inr ⟨hlen, by rw [if_pos hlen]; rfl⟩
  | varStr => exact .inl ⟨trivial, _, rfl, rfl, rfl⟩
  | null =>
    by_cases hlen : value.length = 0
    · refine .inl ⟨hlen, _, by rw [if_neg (not_not.mpr hlen)]; rfl, ?_⟩
      exact List.eq_nil_of_length_eq_zero hlen
    · exact .inr ⟨hlen, by rw [if_pos hlen]; rfl⟩
  | more => exact absurd hctype hleaf.1
  | compound => exact absurd hctype hleaf.2.1
  | message => exact absurd hctype hleaf.2.2

/-! ## One element -/

/-- What the parser does with elements `l` behind the elements `seen`. -/
def TlvParsed (levels : Nat) (descs : List TlvDesc) (msg : TlvMsg) (p : Nat) (seen l : List Tlv)
    (overflow : Prop) (result : TlvM (TlvMsg × Rv)) : Prop :=
  (overflow ∧ ∃ site, result = .error (.assert site)) ∨
  (¬overflow ∧ ∃ msg' rv, result = .ok (msg', rv) ∧ TlvWritten descs p (seen ++ l) msg msg' ∧
    ((rv = .ok ∧ (∀ tlv ∈ l, TlvAccepted levels descs tlv) ∧
        TlvHolds True levels descs msg' p (seen ++ l)) ∨
      (rv = .error ∧ ∃ tlv ∈ l, ¬TlvAccepted levels descs tlv)))

/-- The parser of the levels below does what it should. -/
def TlvParses (levels : Nat)
    (compound : List TlvDesc → TlvMsg → Nat → List Tlv → TlvM (TlvMsg × Rv)) : Prop :=
  ∀ descs msg p seen l, TlvWf descs → TlvHolds True levels descs msg p seen → l ≠ [] →
    TlvParsed levels descs msg p seen l (TlvOverflow levels descs seen l) (compound descs msg p l)

/-- Writing to the place of an element. -/
theorem TlvWritten.at (hf : f ∈ tlvLayout 0 descs) (hroom : j < f.room)
    (hheld : tlv ∈ tlvHeld descs f l j) (h : ∀ b, b ≠ f.addr p j → msg' b = msg b) :
    TlvWritten descs p l msg msg' := by
  intro b hb
  have hbj : b = f.addr p j := by
    by_contra hne
    exact hb (h b hne)
  rw [hbj]
  exact ⟨f.desc, tlv, .here hf hroom hheld⟩

theorem tlvParseInto_leaf (hwf : TlvWf descs) (hf : f ∈ tlvLayout 0 descs)
    (h : TlvHolds True (levels + 1) descs msg p seen)
    (htarget : tlvTarget tlv (tlvLayout 0 descs) = .field f)
    (hj : f.next (tlvReceived descs f seen) = j) (hroom : j < f.room)
    (hleaf : f.desc.ctype.IsLeaf) :
    TlvParsed (levels + 1) descs msg p seen [tlv]
      (TlvNoRoom (TlvOverflow levels) descs seen tlv)
      (tlvParseInto compound msg (f.addr p j) f.desc tlv) := by
  have hc : f.desc.ctype ≠ .compound := hleaf.2.1
  have hno : ¬TlvNoRoom (TlvOverflow levels) descs seen tlv := by
    simp [TlvNoRoom, htarget, hc, hj, hroom]
  have hacc : TlvAccepted (levels + 1) descs tlv ↔ f.desc.LengthOk tlv := by
    simp [TlvAccepted, htarget, hc]
  have hheld : tlv ∈ tlvHeld descs f (seen ++ [tlv]) j := by
    rw [← hj, held_next hwf hf htarget]
    simp
  refine .inr ⟨hno, ?_⟩
  unfold tlvParseInto
  rw [if_neg hc]
  rcases tlvParseLeaf_eq hleaf (msg (f.addr p j)) tlv with
    ⟨hlen, cell, hcell, hholds⟩ | ⟨hlen, hcell⟩
  · have hset : (msg.set (f.addr p j) cell).setPresence (f.addr p j) =
        Function.update msg (f.addr p j) { cell with presence := true } := by
      funext b
      simp only [TlvMsg.setPresence, TlvMsg.set_apply, Function.update_apply]
      split <;> rfl
    rw [hcell, Fallible.ok_bind]
    refine ⟨_, .ok, rfl, ?_, .inl ⟨rfl, ?_, ?_⟩⟩
    · rw [hset]
      exact TlvWritten.at hf hroom hheld fun b hb => Function.update_of_ne hb _ _
    · intro t ht
      rw [List.mem_singleton.mp ht]
      exact hacc.mpr hlen
    · rw [hset]
      have hpos := (hwf.field hf).vsize_pos
      refine h.store hwf hf htarget hj hroom (.update (Nat.le_refl _) (by omega) _ _) ?_ ?_ ?_
      · simp
      · rw [Function.update_self]
        exact fun _ => hholds
      · exact fun hc' => absurd hc' hc
  · have hset : msg.set (f.addr p j) (msg (f.addr p j)) = msg := Function.update_eq_self _ _
    rw [hcell, Fallible.ok_bind]
    refine ⟨_, .error, rfl, ?_, .inr ⟨rfl, tlv, List.mem_singleton_self tlv, hacc.not.mpr hlen⟩⟩
    rw [hset]
    exact .refl

theorem tlvParseInto_compound (hcompound : TlvParses levels compound) (hwf : TlvWf descs)
    (hf : f ∈ tlvLayout 0 descs) (h : TlvHolds True (levels + 1) descs msg p seen)
    (htarget : tlvTarget tlv (tlvLayout 0 descs) = .field f)
    (hj : f.next (tlvReceived descs f seen) = j) (hroom : j < f.room)
    (hc : f.desc.ctype = .compound) :
    TlvParsed (levels + 1) descs msg p seen [tlv]
      (TlvNoRoom (TlvOverflow levels) descs seen tlv)
      (tlvParseInto compound msg (f.addr p j) f.desc tlv) := by
  have hno : TlvNoRoom (TlvOverflow levels) descs seen tlv ↔ tlv.block ≠ [] ∧
      TlvOverflow levels f.desc.childDescs (tlvInner descs f seen j) tlv.block := by
    simp [TlvNoRoom, htarget, hc, hj, hroom]
  have hacc : TlvAccepted (levels + 1) descs tlv ↔ tlv.block ≠ [] ∧
      ∀ u ∈ tlv.block, TlvAccepted levels f.desc.childDescs u := by
    simp [TlvAccepted, htarget, hc]
  have hnext := held_next (l := seen) hwf hf htarget
  rw [hj] at hnext
  have hinner : tlvInner descs f (seen ++ [tlv]) j = tlvInner descs f seen j ++ tlv.block := by
    rw [tlvInner, hnext, List.flatMap_append, List.flatMap_singleton, tlvInner]
  have hheld : tlv ∈ tlvHeld descs f (seen ++ [tlv]) j := by
    rw [hnext]
    simp
  unfold tlvParseInto
  rw [if_pos hc]
  by_cases hblock : tlv.block = []
  · refine .inr ⟨by simp [hno, hblock], msg, .error, by rw [if_pos hblock]; rfl, .refl, ?_⟩
    exact .inr ⟨rfl, tlv, List.mem_singleton_self tlv, by simp [hacc, hblock]⟩
  · rw [if_neg hblock]
    have hholds := (h f hf j hroom).2.2 hc (.inl trivial)
    have hsize := (hwf.field hf).compound hc
    rcases hcompound _ _ _ _ _ (hwf.child hf hc) hholds hblock with
      ⟨hover, site, hsite⟩ | ⟨hover, msg', rv, hmsg, hwritten, hrest⟩
    · exact .inl ⟨hno.mpr ⟨hblock, hover⟩, site, by rw [hsite]; rfl⟩
    · have hwithin := hwritten.within (hwf.child hf hc)
      have hinside : TlvWritten descs p (seen ++ [tlv]) msg msg' := by
        intro b hb
        obtain ⟨d, t, hstored⟩ := hwritten b hb
        rw [← hinner] at hstored
        exact ⟨d, t, .inside hf hroom hc hstored⟩
      refine .inr ⟨by simp [hno, hblock, hover], ?_⟩
      rw [hmsg, Fallible.ok_bind]
      rcases hrest with ⟨rfl, hall, hafter⟩ | ⟨rfl, hbad⟩
      · refine ⟨_, .ok, rfl, ?_, .inl ⟨rfl, ?_, ?_⟩⟩
        · refine hinside.trans (TlvWritten.at hf hroom hheld fun b hb => ?_)
          exact Function.update_of_ne hb _ _
        · intro t ht
          rw [List.mem_singleton.mp ht]
          exact hacc.mpr ⟨hblock, hall⟩
        · have hfirst : Extent.Within (f.addr p j) (f.addr p j + f.desc.vsize) msg msg' :=
            hwithin.mono (by omega) (by omega)
          have hpos := (hwf.field hf).vsize_pos
          have hpresence : Extent.Within (f.addr p j) (f.addr p j + 1) msg'
              (msg'.setPresence (f.addr p j)) := .update (Nat.le_refl _) (by omega) _ _
          refine h.store hwf hf htarget hj hroom
            (hfirst.trans (hpresence.mono (Nat.le_refl _) (by omega))) ?_ ?_ ?_
          · simp [TlvMsg.setPresence]
          · exact fun hl => absurd hc hl.2.1
          · intro _
            refine hafter.congr (hwf.child hf hc) (hpresence.sameOn (.inr ?_))
            simp only [tlvPresenceSize]
            omega
      · refine ⟨msg', .error, rfl, hinside, .inr ⟨rfl, tlv, List.mem_singleton_self tlv, ?_⟩⟩
        obtain ⟨u, hu, hunot⟩ := hbad
        exact fun hyes => hunot ((hacc.mp hyes).2 u hu)

theorem tlvParseMember_eq (hcompound : TlvParses levels compound) (hwf : TlvWf descs)
    (h : TlvHolds True (levels + 1) descs msg p seen) (tlv : Tlv) :
    TlvParsed (levels + 1) descs msg p seen [tlv]
      (TlvNoRoom (TlvOverflow levels) descs seen tlv)
      (tlvParseMember compound descs p msg tlv) := by
  have hfind : ∃ r, tlvFindDesc tlv 0 0 none descs = .ok r ∧
      TlvFound 0 descs r (tlvTarget tlv (tlvLayout 0 descs)) :=
    tlvFindDesc_eq 0 none fun f hf => hwf.field hf
  obtain ⟨r, hr, hfound⟩ := hfind
  unfold tlvParseMember
  rw [hr, Fallible.ok_bind]
  cases htarget : tlvTarget tlv (tlvLayout 0 descs) with
  | none =>
    rw [htarget] at hfound
    obtain rfl : r = none := hfound
    refine .inr ⟨by simp [TlvNoRoom, htarget], msg, .error, rfl, .refl, .inr ⟨rfl, tlv, ?_⟩⟩
    exact ⟨List.mem_singleton_self tlv, by simp [TlvAccepted, htarget]⟩
  | more =>
    rw [htarget] at hfound
    obtain ⟨i, offset, desc, rfl, hctype, hnext⟩ := hfound
    have hoffset : tlvRoomOffset descs p msg (0 + i) offset desc = .ok offset := by
      unfold tlvRoomOffset
      unfold tlvNextMore at hnext
      rw [Nat.zero_add]
      cases hd : descs[i + 1]? with
      | none => rfl
      | some next =>
        have hne : next.ctype ≠ .more := by
          rintro hmore
          rw [hd, Option.filter_some_pos (by simp [hmore])] at hnext
          cases hnext
        simp only [if_neg hne]
        rfl
    refine .inl ⟨by simp [TlvNoRoom, htarget], .parseLeaf, ?_⟩
    simp only [hoffset, Fallible.ok_bind, tlvParseInto, tlvParseLeaf, hctype]
    rfl
  | field f =>
    rw [htarget] at hfound
    obtain ⟨i, rfl, hnext⟩ := hfound
    have hf := (tlvTarget_field htarget).1
    have hoffset := tlvRoomOffset_eq h hf hnext
    simp only [Nat.zero_add, hoffset]
    by_cases hroom : f.next (tlvReceived descs f seen) < f.room
    · rw [if_pos hroom, Fallible.ok_bind, ← Nat.add_assoc]
      rcases (hwf.field hf).kind with hleaf | hc
      · exact tlvParseInto_leaf hwf hf h htarget rfl hroom hleaf
      · exact tlvParseInto_compound hcompound hwf hf h htarget rfl hroom hc
    · refine .inl ⟨?_, .parseCompound, by rw [if_neg hroom]; rfl⟩
      simp only [TlvNoRoom, htarget]
      exact .inl (by omega)

/-! ## All elements -/

theorem tlvParseMembers_eq (hcompound : TlvParses levels compound) (hwf : TlvWf descs)
    (h : TlvHolds True (levels + 1) descs msg p seen) (l : List Tlv) :
    TlvParsed (levels + 1) descs msg p seen l (TlvOverflow (levels + 1) descs seen l)
      (tlvParseMembers compound descs p msg l) := by
  induction l generalizing msg seen with
  | nil =>
    refine .inr ⟨not_overflow_nil, msg, .ok, rfl, .refl, .inl ⟨rfl, fun t ht => (by cases ht), ?_⟩⟩
    rw [List.append_nil]
    exact h
  | cons tlv l ih =>
    have happend : seen ++ [tlv] ++ l = seen ++ tlv :: l := by simp
    have hpre : seen ++ [tlv] <+: seen ++ tlv :: l := by
      rw [← happend]
      exact List.prefix_append _ _
    rw [tlvParseMembers, overflow_cons]
    rcases tlvParseMember_eq hcompound hwf h tlv with
      ⟨hover, site, hsite⟩ | ⟨hover, msg', rv, hmsg, hwritten, hrest⟩
    · exact .inl ⟨.inl hover, site, by rw [hsite]; rfl⟩
    · rw [hmsg, Fallible.ok_bind]
      rcases hrest with ⟨rfl, hacc, hafter⟩ | ⟨rfl, t, ht, hbad⟩
      · have hacc := hacc tlv (List.mem_singleton_self tlv)
        simp only [ne_eq, not_true_eq_false, if_false]
        rcases ih hafter with ⟨hover', hsite⟩ | ⟨hover', msg'', rv, hmsg', hwritten', hrest'⟩
        · exact .inl ⟨.inr ⟨hacc, hover'⟩, hsite⟩
        · rw [happend] at hwritten' hrest'
          refine .inr ⟨?_, msg'', rv, hmsg', (hwritten.mono hpre).trans hwritten', ?_⟩
          · rintro (hno | ⟨-, hno⟩)
            · exact hover hno
            · exact hover' hno
          · rcases hrest' with ⟨rfl, hall, hlast⟩ | ⟨rfl, t, ht, hbad⟩
            · refine .inl ⟨rfl, ?_, hlast⟩
              intro t ht
              rcases List.mem_cons.mp ht with rfl | ht
              · exact hacc
              · exact hall t ht
            · exact .inr ⟨rfl, t, List.mem_cons_of_mem _ ht, hbad⟩
      · rw [List.mem_singleton] at ht
        subst ht
        refine .inr ⟨?_, msg', .error, by simp, hwritten.mono hpre, ?_⟩
        · rintro (hno | ⟨hyes, -⟩)
          · exact hover hno
          · exact hbad hyes
        · exact .inr ⟨rfl, t, List.mem_cons_self, hbad⟩

theorem tlvParseCompound_eq (levels : Nat) : TlvParses levels (tlvParseCompound levels) := by
  induction levels with
  | zero =>
    intro descs msg p seen l _ _ _
    exact .inl ⟨trivial, .parseCompound, rfl⟩
  | succ levels ih =>
    intro descs msg p seen l hwf h hl
    rw [tlvParseCompound, Fallible.assert_of hl, Fallible.ok_bind]
    exact tlvParseMembers_eq ih hwf h l

/-! ## Messages -/

/-- A leaf for which elements were accepted has the value of one of them. -/
theorem TlvHolds.stored (hwf : TlvWf descs) (hall : ∀ t ∈ l, TlvAccepted levels descs t)
    (h : TlvHolds True levels descs msg p l) (hstored : TlvStoredAt descs p l a desc tlv)
    (hleaf : desc.ctype.IsLeaf) :
    ∃ t, TlvStoredAt descs p l a desc t ∧ desc.Holds (msg a) t.value := by
  induction hstored generalizing levels with
  | @here descs p l f j tlv hf hj hheld =>
    cases levels with
    | zero => exact absurd (hall tlv (mem_of_held hheld).1) id
    | succ levels =>
      have hlast := List.getLast?_eq_some_getLast (List.ne_nil_of_mem hheld)
      have hmem := List.getLast_mem (List.ne_nil_of_mem hheld)
      exact ⟨_, .here hf hj hmem, (h f hf j hj).2.1 hleaf _ hlast⟩
  | @inside descs p l f j a desc tlv hf hj hc hin ih =>
    cases levels with
    | zero =>
      obtain ⟨u, hu⟩ := List.exists_mem_of_ne_nil _ (TlvStoredAt.inside hf hj hc hin).ne_nil
      exact absurd (hall u hu) id
    | succ levels =>
      have hchild : ∀ u ∈ tlvInner descs f l j, TlvAccepted levels f.desc.childDescs u := by
        intro u hu
        obtain ⟨t, ht, hut⟩ := List.mem_flatMap.mp hu
        obtain ⟨htl, htakes⟩ := mem_of_held ht
        have hacc := hall t htl
        rw [takes_iff hwf hf] at htakes
        simp only [TlvAccepted, htakes, hc, true_and, ne_eq, not_true_eq_false, false_and,
          or_false] at hacc
        exact hacc.2 u hut
      obtain ⟨t, ht, hholds⟩ :=
        ih (hwf.child hf hc) hchild ((h f hf j hj).2.2 hc (.inl trivial)) hleaf
      exact ⟨t, .inside hf hj hc ht, hholds⟩

theorem ogsTlvParseMsg_eq (d : TlvMessageDesc) (pkbuf : Bytes) :
    ogsTlvParseMsg msg d.desc pkbuf =
      if OgsTlv.parseBlock pkbuf = [] then .ok (msg, .error)
      else tlvParseCompound tlvLevels d.desc.childDescs msg 0 (OgsTlv.parseBlock pkbuf) := by
  rw [ogsTlvParseMsg, Fallible.assert_of d.ctype_eq, Fallible.ok_bind,
    Fallible.assert_of d.ne_nil, Fallible.ok_bind]
  rfl

/-- Into a cleared message the parser returns, has written nothing but structures for received
elements, in which they fit, and if it has accepted all elements, every leaf that is present
has the value and the length of its element, exactly if the received elements do not
overflow. -/
theorem ogsTlvParseMsg_returns_iff (d : TlvMessageDesc) (pkbuf : Bytes) :
    (∃ msg rv, ogsTlvParseMsg .zeroed d.desc pkbuf = .ok (msg, rv) ∧ (rv = .ok ∨ rv = .error) ∧
      (∀ a, msg a ≠ TlvMsg.zeroed a → ∃ desc tlv,
        TlvStoredAt d.desc.childDescs 0 (OgsTlv.parseBlock pkbuf) a desc tlv ∧
          (desc.ctype.IsLeaf → desc.ctype.size ≤ desc.vsize)) ∧
      (rv = .ok → ∀ a, (msg a).presence = true → ∃ desc tlv,
        TlvStoredAt d.desc.childDescs 0 (OgsTlv.parseBlock pkbuf) a desc tlv ∧
          (desc.ctype.IsLeaf → desc.Holds (msg a) tlv.value))) ↔
    ¬TlvOverflow tlvLevels d.desc.childDescs [] (OgsTlv.parseBlock pkbuf) := by
  rw [ogsTlvParseMsg_eq]
  by_cases hnull : OgsTlv.parseBlock pkbuf = []
  · rw [if_pos hnull, hnull]
    refine iff_of_true ⟨.zeroed, .error, rfl, .inr rfl, ?_, ?_⟩ not_overflow_nil
    · exact fun a ha => absurd rfl ha
    · exact fun h => by cases h
  · rw [if_neg hnull]
    rcases tlvParseCompound_eq tlvLevels _ _ _ _ _ d.wf (tlvHolds_zeroed _ _ 0) hnull with
      ⟨hover, site, hsite⟩ | ⟨hover, msg, rv, hmsg, hwritten, hrest⟩
    · refine iff_of_false ?_ (not_not.mpr hover)
      rintro ⟨msg, rv, hmsg, -⟩
      rw [hsite] at hmsg
      cases hmsg
    · refine iff_of_true ⟨msg, rv, hmsg, ?_, ?_, ?_⟩ hover
      · rcases hrest with ⟨hrv, -⟩ | ⟨hrv, -⟩
        · exact .inl hrv
        · exact .inr hrv
      · intro a ha
        obtain ⟨desc, tlv, hstored⟩ := hwritten a ha
        exact ⟨desc, tlv, hstored, (hstored.kind d.wf).2⟩
      · rintro rfl a ha
        rcases hrest with ⟨-, hall, hholds⟩ | ⟨hrv, -⟩
        · have hne : msg a ≠ TlvMsg.zeroed a := by
            intro heq
            rw [heq] at ha
            cases ha
          obtain ⟨desc, tlv, hstored⟩ := hwritten a hne
          by_cases hleaf : desc.ctype.IsLeaf
          · obtain ⟨t, ht, hvalue⟩ := hholds.stored d.wf hall hstored hleaf
            exact ⟨desc, t, ht, fun _ => hvalue⟩
          · exact ⟨desc, tlv, hstored, fun h => absurd h hleaf⟩
        · cases hrv

end

/-! ## Messages that overflow -/

section
attribute [local instance] OgsTlv.reference

/-- A message with one array, of one EPS bearer identity. -/
def ebiMessage : TlvMessageDesc where
  desc := ⟨.message, 0, 0, 0, 0, [⟨.uint8, 73, 1, 1, 16, []⟩, ogsTlvDescMore 1]⟩
  ctype_eq := rfl
  ne_nil := by simp
  wf := by
    refine .mk ?_ ?_
    · intro f hf
      obtain rfl : f = ⟨⟨.uint8, 73, 1, 1, 16, []⟩, 0, some (ogsTlvDescMore 1)⟩ := by
        simpa [tlvLayout, ogsTlvDescMore] using hf
      refine ⟨.inl ⟨by simp, by simp, by simp⟩, fun _ => Nat.le_refl 16, by simp, ?_⟩
      rintro more ⟨rfl⟩
      exact ⟨1, Nat.one_pos, rfl⟩
    · intro f hf hc
      obtain rfl : f = ⟨⟨.uint8, 73, 1, 1, 16, []⟩, 0, some (ogsTlvDescMore 1)⟩ := by
        simpa [tlvLayout, ogsTlvDescMore] using hf
      cases hc

set_option maxRecDepth 2000 in
/-- A second bearer identity, and an element of type 0, abort the parser. -/
theorem ogsTlvParseMsg_abort :
    ogsTlvParseMsg .zeroed ebiMessage.desc [73, 0, 1, 1, 5, 73, 0, 1, 1, 6] =
      .error (.assert .parseCompound) ∧
    ogsTlvParseMsg .zeroed ebiMessage.desc [0, 0, 0, 0] = .error (.assert .parseLeaf) :=
  ⟨rfl, rfl⟩

end

end NextEpc

import NextEpc.Gtp.TlvBuild

/-!
# The round trip of a TLV message

The builder makes the elements that the message holds. The parser, given these elements,
fills a cleared message that holds them too. Two messages that hold the same elements have
the same value.
-/

namespace NextEpc

def TlvDesc.SameLeaf (desc : TlvDesc) (cell cell' : TlvCell) : Prop :=
  match desc.ctype with
  | .uint8 | .int8 => cell.u8 = cell'.u8
  | .uint16 | .int16 => cell.u16 = cell'.u16
  | .uint24 | .int24 | .uint32 | .int32 => cell.u32 = cell'.u32
  | .fixedStr | .varStr => cell.len = cell'.len ∧ cell.data = cell'.data
  | _ => True

/-- The two messages have the same value. -/
inductive TlvSame (msg msg' : TlvMsg) : List TlvDesc → Nat → Prop
  | mk {descs : List TlvDesc} {p : Nat} :
      (∀ f ∈ tlvLayout 0 descs, ∀ j < f.room,
        (msg (f.addr p j)).presence = (msg' (f.addr p j)).presence) →
      (∀ f ∈ tlvLayout 0 descs, ∀ j < f.room, (msg (f.addr p j)).presence = true →
        f.desc.ctype ≠ .compound → f.desc.SameLeaf (msg (f.addr p j)) (msg' (f.addr p j))) →
      (∀ f ∈ tlvLayout 0 descs, ∀ j < f.room, (msg (f.addr p j)).presence = true →
        f.desc.ctype = .compound →
        TlvSame msg msg' f.desc.childDescs (f.addr p j + tlvPresenceSize)) →
      TlvSame msg msg' descs p

section
variable [OgsTlv] {descs : List TlvDesc} {l l' seen : List Tlv} {p a levels : Nat} {tlv : Tlv}
  {msg msg' : TlvMsg} {desc : TlvDesc} {cell cell' : TlvCell} {value : Bytes}

/-! ## Elements that fit do not overflow -/

theorem TlvFits.mono (h : TlvFits levels descs l') (hl : l <+: l') : TlvFits levels descs l := by
  induction levels generalizing descs l l' with
  | zero => exact h
  | succ levels ih =>
    intro f hf
    obtain ⟨hcount, hcompound⟩ := h f hf
    refine ⟨fun m hm => ?_, fun hc j hj hheld => ?_⟩
    · obtain ⟨t, rfl⟩ := hl
      have hle := hcount m hm
      rw [received_append, List.length_append] at hle
      omega
    · refine ih (hcompound hc j hj ?_) (inner_mono descs f hl j)
      obtain ⟨t, ht⟩ := held_mono descs f hl j
      rw [← ht]
      exact List.append_ne_nil_of_left_ne_nil hheld t

theorem not_overflow (hwf : TlvWf descs) (hacc : ∀ t ∈ l, TlvAccepted levels descs t)
    (hfits : TlvFits levels descs (seen ++ l)) : ¬TlvOverflow levels descs seen l := by
  induction levels generalizing descs seen l with
  | zero => exact absurd hfits id
  | succ levels ih =>
    rintro ⟨pre, tlv, post, rfl, -, hno⟩
    have hpre : seen ++ pre ++ [tlv] <+: seen ++ (pre ++ tlv :: post) :=
      ⟨post, by simp⟩
    have hfits := hfits.mono hpre
    have htlv := hacc tlv (by simp)
    unfold TlvNoRoom at hno
    unfold TlvAccepted at htlv
    cases htarget : tlvTarget tlv (tlvLayout 0 descs) with
    | none =>
      rw [htarget] at hno
      exact hno
    | more =>
      rw [htarget] at htlv
      exact htlv
    | field f =>
      have hf := (tlvTarget_field htarget).1
      simp only [htarget] at hno htlv
      have hroom : f.next (tlvReceived descs f (seen ++ pre)) < f.room := by
        unfold TlvField.next TlvField.room
        cases hmore : f.more with
        | none => exact Nat.one_pos
        | some m =>
          have hle := (hfits f hf).1 m hmore
          rw [received_append, received_of_target hwf hf htarget, List.length_append,
            List.length_singleton] at hle
          exact hle
      rcases hno with hno | ⟨hc, hblock, hno⟩
      · omega
      · have hnext := held_next (l := seen ++ pre) hwf hf htarget
        have hinner := (hfits f hf).2 hc _ hroom (by rw [hnext]; simp)
        rw [tlvInner, hnext, List.flatMap_append, List.flatMap_singleton] at hinner
        rcases htlv with ⟨-, -, hall⟩ | ⟨hne, -⟩
        · exact ih (hwf.child hf hc) hall hinner hno
        · exact hne hc

/-! ## Messages that hold the same elements -/

omit [OgsTlv] in
/-- Leaves of the same value are the same. -/
theorem TlvDesc.Holds.same (h : desc.Holds cell value) (h' : desc.Holds cell' value) :
    desc.SameLeaf cell cell' := by
  unfold TlvDesc.Holds at h h'
  unfold TlvDesc.SameLeaf
  cases hctype : desc.ctype with simp only [hctype] at h h' ⊢
  | uint8 | int8 =>
    rw [h, List.cons.injEq] at h'
    exact h'.1
  | uint16 | int16 => exact Octets.eq_of_two (h.symm.trans h')
  | uint24 | int24 => exact Octets.eq_of_three h.1 h'.1 (h.2.symm.trans h'.2)
  | uint32 | int32 => exact Octets.htonl_inj (h.symm.trans h')
  | fixedStr => exact ⟨h.2.1.trans h'.2.1.symm, h.1.trans h'.1.symm⟩
  | varStr => exact ⟨h.2.trans h'.2.symm, h.1.trans h'.1.symm⟩

theorem TlvHolds.same (hdepth : TlvDepth levels descs) (hwf : TlvWf descs)
    (h : TlvHolds False levels descs msg p l) (h' : TlvHolds True levels descs msg' p l) :
    TlvSame msg msg' descs p := by
  induction levels generalizing descs p l with
  | zero => cases hdepth
  | succ levels ih =>
    cases hdepth with | mk hdepth =>
    have hpresence : ∀ f ∈ tlvLayout 0 descs, ∀ j < f.room,
        (msg (f.addr p j)).presence = (msg' (f.addr p j)).presence := by
      intro f hf j hj
      have hiff := (h f hf j hj).1.trans (h' f hf j hj).1.symm
      exact Bool.eq_iff_iff.mpr hiff
    refine .mk hpresence (fun f hf j hj hp hc => ?_) (fun f hf j hj hp hc => ?_)
    · have hheld := (h f hf j hj).1.mp hp
      have hleaf : f.desc.ctype.IsLeaf := (hwf.field hf).kind.resolve_right hc
      have hlast := List.getLast?_eq_some_getLast hheld
      exact ((h f hf j hj).2.1 hleaf _ hlast).same ((h' f hf j hj).2.1 hleaf _ hlast)
    · have hheld := (h f hf j hj).1.mp hp
      exact ih (hdepth f hf hc) (hwf.child hf hc) ((h f hf j hj).2.2 hc (.inr hheld))
        ((h' f hf j hj).2.2 hc (.inl trivial))

/-- The structures of elements that a message holds are present in it. -/
theorem TlvHolds.present (hdepth : TlvDepth levels descs)
    (h : TlvHolds False levels descs msg p l) (hstored : TlvStoredAt descs p l a desc tlv) :
    (msg a).presence = true := by
  induction hstored generalizing levels with
  | @here descs p l f j tlv hf hj hheld =>
    cases hdepth with | mk hdepth =>
    exact (h f hf j hj).1.mpr (List.ne_nil_of_mem hheld)
  | @inside descs p l f j a desc tlv hf hj hc hin ih =>
    cases hdepth with | mk hdepth =>
    have hheld : tlvHeld descs f l j ≠ [] := by
      intro hnil
      refine hin.ne_nil ?_
      rw [tlvInner, hnil]
      rfl
    exact ih (hdepth f hf hc) ((h f hf j hj).2.2 hc (.inr hheld))

/-- A value is built, the octets are parsed, and the result is the same value, with nothing
else present. -/
theorem ogsTlvMsg_roundtrip (d : TlvMessageDesc) (msg : TlvMsg) (hkeys : TlvKeys d.desc.childDescs)
    (hdepth : TlvDepth tlvLevels d.desc.childDescs) (hvalid : TlvValid msg d.desc.childDescs 0)
    (hinverse : ∀ built root count,
      tlvAddCompound tlvLevels d.desc.childDescs msg 0 = .ok (built, root, count) →
        TlvInverse root) :
    ∃ built pkbuf parsed, ogsTlvBuildMsg d.desc msg = .ok (built, pkbuf) ∧
      ogsTlvParseMsg .zeroed d.desc pkbuf = .ok (parsed, .ok) ∧
      TlvSame msg parsed d.desc.childDescs 0 ∧
      ∀ a, (parsed a).presence = true → (msg a).presence = true := by
  obtain ⟨built, root, count, hbuild, hcount, -, hroot⟩ :=
    tlvAddCompound_eq tlvLevels _ msg msg 0 d.wf hkeys hdepth hvalid fun _ _ _ => rfl
  have hinv := hinverse built root count hbuild
  have hblock : OgsTlv.parseBlock (OgsTlv.render (tlvs root)) = tlvs root := by
    cases hinv with
    | mk heq _ => exact heq
  have hne := tlvs_ne_nil hroot.ne_nil
  have hpositive : 0 < count ∧ root ≠ [] := ⟨hcount, hroot.ne_nil⟩
  have hfits : TlvFits tlvLevels d.desc.childDescs ([] ++ tlvs root) := hroot.fits hinv
  have hover := not_overflow d.wf (hroot.accepted hinv) hfits
  rcases tlvParseCompound_eq tlvLevels _ _ _ _ _ d.wf (tlvHolds_zeroed _ _ 0) hne with
    ⟨hbad, -⟩ | ⟨-, parsed, rv, hparse, hwritten, hrest⟩
  · exact absurd hbad hover
  · rcases hrest with ⟨rfl, -, hholds⟩ | ⟨-, t, ht, hbad⟩
    · refine ⟨built, OgsTlv.render (tlvs root), parsed, ?_, ?_, ?_, ?_⟩
      · rw [ogsTlvBuildMsg, Fallible.assert_of d.ctype_eq, Fallible.ok_bind,
          Fallible.assert_of d.ne_nil, Fallible.ok_bind]
        simp only [hbuild, Fallible.ok_bind, Fallible.assert_of hpositive]
        rfl
      · rw [ogsTlvParseMsg_eq, hblock, if_neg hne, hparse]
      · exact (hroot.holds hinv).same hdepth d.wf hholds
      · intro a ha
        have hchanged : parsed a ≠ TlvMsg.zeroed a := by
          intro heq
          rw [heq] at ha
          cases ha
        obtain ⟨desc, tlv, hstored⟩ := hwritten a hchanged
        exact (hroot.holds hinv).present hdepth hstored
    · exact absurd (hroot.accepted hinv t ht) hbad

end

/-! ## A message with an array of compounds -/

section
attribute [local instance] OgsTlv.reference

/-- A delay value and at most two bearer contexts with a bearer identity. -/
def bearerMessage : TlvMessageDesc where
  desc := ⟨.message, 0, 0, 0, 0, [⟨.uint16, 92, 2, 0, 16, []⟩,
    ⟨.compound, 93, 0, 0, 24, [⟨.uint8, 73, 1, 0, 16, []⟩]⟩, ogsTlvDescMore 2]⟩
  ctype_eq := rfl
  ne_nil := by simp
  wf := by
    have hinner : TlvWf [⟨.uint8, 73, 1, 0, 16, []⟩] := by
      refine .mk ?_ ?_ <;> simp only [tlvLayout, List.mem_singleton, forall_eq]
      · exact ⟨.inl ⟨by simp, by simp, by simp⟩, fun _ => Nat.le_refl 16, by simp, by simp⟩
      · simp
    refine .mk ?_ ?_ <;> simp only [tlvLayout, ogsTlvDescMore, reduceCtorEq, if_true, if_false,
      List.mem_cons, List.not_mem_nil, or_false, forall_eq_or_imp, forall_eq]
    · refine ⟨⟨.inl ⟨by simp, by simp, by simp⟩, fun _ => Nat.le_refl 16, by simp, by simp⟩,
        ⟨.inr rfl, fun h => absurd rfl h.2.1, fun _ => Nat.le_refl 24, ?_⟩⟩
      rintro more ⟨rfl⟩
      exact ⟨2, Nat.two_pos, rfl⟩
    · exact ⟨fun h => h.elim, fun _ => hinner⟩

/-- Delay 7 and one bearer context, for bearer 5. -/
def bearerValue : TlvMsg
  | 0 => { presence := true, u16 := 7 }
  | 16 => { presence := true }
  | 24 => { presence := true, u8 := 5 }
  | _ => {}

/-- The elements of the value. -/
theorem bearerValue_elements : ∃ built, tlvAddCompound tlvLevels bearerMessage.desc.childDescs
    bearerValue 0 = .ok (built, [⟨92, 0, [0, 7], []⟩, ⟨93, 0, [], [⟨73, 0, [5], []⟩]⟩], 3) :=
  ⟨_, rfl⟩

set_option maxRecDepth 2000 in
theorem ogsTlvMsg_roundtrip_bearer : ∃ built pkbuf parsed,
    ogsTlvBuildMsg bearerMessage.desc bearerValue = .ok (built, pkbuf) ∧
    ogsTlvParseMsg .zeroed bearerMessage.desc pkbuf = .ok (parsed, .ok) ∧
    TlvSame bearerValue parsed bearerMessage.desc.childDescs 0 ∧
    ∀ a, (parsed a).presence = true → (bearerValue a).presence = true := by
  have hinner : tlvLayout 0 [⟨.uint8, 73, 1, 0, 16, []⟩] = [⟨⟨.uint8, 73, 1, 0, 16, []⟩, 0, none⟩] :=
    rfl
  have houter : tlvLayout 0 bearerMessage.desc.childDescs =
      [⟨⟨.uint16, 92, 2, 0, 16, []⟩, 0, none⟩,
        ⟨⟨.compound, 93, 0, 0, 24, [⟨.uint8, 73, 1, 0, 16, []⟩]⟩, 16,
          some (ogsTlvDescMore 2)⟩] := rfl
  refine ogsTlvMsg_roundtrip bearerMessage bearerValue ?_ ?_ ?_ ?_
  · refine .mk ?_ ?_ ?_
    · simp [houter]
    · simp [houter]
    · simp only [houter, List.mem_cons, List.not_mem_nil, or_false, forall_eq_or_imp, forall_eq,
        reduceCtorEq, false_implies, true_and, forall_const]
      refine .mk ?_ ?_ ?_ <;> simp [hinner]
  · refine .mk ?_
    simp only [houter, List.mem_cons, List.not_mem_nil, or_false, forall_eq_or_imp, forall_eq,
      reduceCtorEq, false_implies, true_and, forall_const]
    refine .mk ?_
    simp [hinner]
  · have hvalue : TlvValid bearerValue [⟨.uint8, 73, 1, 0, 16, []⟩] 24 := by
      refine .mk ?_ ?_ ?_ ?_ <;> simp only [hinner, List.mem_singleton, forall_eq, exists_eq_left]
      · exact ⟨0, Nat.one_pos, rfl⟩
      · intro j k hjk hk
        simp only [TlvField.room] at hk
        omega
      · exact fun _ _ _ _ => trivial
      · exact fun _ _ _ hc => by cases hc
    refine .mk ?_ ?_ ?_ ?_ <;> simp only [houter, List.mem_cons, List.not_mem_nil, or_false,
      forall_eq_or_imp, forall_eq]
    · exact ⟨_, .inl rfl, 0, Nat.one_pos, rfl⟩
    · refine ⟨fun j k hjk hk => ?_, fun j k hjk hk _ => ?_⟩
      · simp only [TlvField.room] at hk
        omega
      · simp only [TlvField.room, ogsTlvDescMore] at hk
        obtain rfl : j = 0 := by omega
        rfl
    · exact ⟨fun _ _ _ _ => trivial, fun _ _ _ hc => absurd rfl hc⟩
    · refine ⟨fun _ _ _ hc => (by cases hc), fun j hj hp _ => ?_⟩
      simp only [TlvField.room, ogsTlvDescMore] at hj
      obtain rfl | rfl : j = 0 ∨ j = 1 := by omega
      · exact hvalue
      · cases hp
  · intro built root count hbuild
    obtain ⟨built', hbuild'⟩ := bearerValue_elements
    rw [hbuild'] at hbuild
    cases hbuild
    refine .mk rfl ?_
    simp only [List.mem_cons, List.not_mem_nil, or_false, forall_eq_or_imp, forall_eq]
    refine ⟨fun h => absurd rfl h, fun _ => .mk rfl ?_⟩
    simp

end

end NextEpc

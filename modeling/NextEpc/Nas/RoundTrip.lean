import NextEpc.Nas.Decode

/-!
# Messages that are encoded and decoded

The elements of a message are written one behind the other, those with a tag in the order of the
table. What is decoded has the same elements, each as it is read back. This is so unless an element
that is always there is the half of an octet, as in an Authentication Request and in a Security Mode
Command: it is written as an octet and read from the octet before it.
-/

namespace NextEpc
open Fallible

/-! ## Tags -/

theorem toNat_and_upper (octet : UInt8) : (octet &&& 0xf0).toNat = octet.toNat / 16 * 16 := by
  have hall : ∀ n < 256, n &&& 0xf0 = n / 16 * 16 := by decide +kernel
  exact hall octet.toNat octet.toNat_lt

/-- The upper half of an octet is a tag, whatever the lower half is. -/
theorem nasTag_octet {tag : UInt8} (hle : 0x80 ≤ tag) (htag : nasTag tag = tag) (octet : UInt8) :
    nasTag (Tbcd.octet octet (tag >>> 4)) = tag := by
  have hlt := tag.toNat_lt
  have hle' : 128 ≤ tag.toNat := hle
  have hupper : tag.toNat / 16 * 16 = tag.toNat := by
    rw [nasTag, if_pos hle] at htag
    rw [← toNat_and_upper, htag]
  have hnat : (Tbcd.octet octet (tag >>> 4)).toNat = tag.toNat + octet.toNat % 16 := by
    rw [Tbcd.toNat_octet, Tbcd.toNat_shiftRight_nibble]
    omega
  have hoctet : (0x80 : UInt8) ≤ Tbcd.octet octet (tag >>> 4) := by
    change 128 ≤ (Tbcd.octet octet (tag >>> 4)).toNat
    omega
  rw [nasTag, if_pos hoctet]
  apply UInt8.toNat_inj.mp
  rw [toNat_and_upper, hnat]
  omega

theorem lookup_of_mem {α β : Type} [BEq α] [LawfulBEq α] {l : List (α × β)} {e : α × β}
    (hdistinct : (l.map Prod.fst).Nodup) (h : e ∈ l) : l.lookup e.1 = some e.2 := by
  induction l with
  | nil => cases h
  | cons first l ih =>
    rw [List.map_cons, List.nodup_cons] at hdistinct
    cases List.mem_cons.mp h with
    | inl heq => rw [← heq, List.lookup_cons_self]
    | inr hmem =>
      have hne : (e.1 == first.1) = false :=
        beq_eq_false_iff_ne.mpr fun heq => hdistinct.1 (heq ▸ List.mem_map_of_mem hmem)
      rw [List.lookup_cons, hne]
      exact ih hdistinct.2 hmem

theorem lookup_of_notMem {α β : Type} [BEq α] [LawfulBEq α] {l : List (α × β)} {a : α}
    (h : a ∉ l.map Prod.fst) : l.lookup a = none := by
  refine List.lookup_eq_none_iff.mpr fun e he => ?_
  exact bne_iff_ne.mpr fun heq => h (heq ▸ List.mem_map_of_mem he)

theorem mem_of_lookup {α β : Type} [BEq α] [LawfulBEq α] {l : List (α × β)} {a : α} {b : β}
    (h : l.lookup a = some b) : (a, b) ∈ l := by
  obtain ⟨front, rest, rfl, -⟩ := List.lookup_eq_some_iff.mp h
  exact List.mem_append_right _ List.mem_cons_self

section
variable [OgsNas] {t : NasMessageType} {body : NasBody} {e : UInt8 × NasIe} {r : NasRecord}

/-! ## Elements with a tag -/

/-- The octets of an element with its tag -/
def taggedWire (e : UInt8 × NasIe) (r : NasRecord) : Bytes :=
  if e.2.isHalf = true then e.2.wire (NasMessageType.setType e.1 r) else e.1 :: e.2.wire r

/-- What such an element is when it has been written and read -/
def taggedReceived (e : UInt8 × NasIe) (r : NasRecord) : NasRecord :=
  if e.2.isHalf = true then NasMessageType.setType e.1 r else e.2.received r

omit [OgsNas] in
theorem half_of_isHalf {ie : NasIe} (h : ie.isHalf = true) : ie = .half := by
  cases ie with
  | half => rfl
  | copied => cases h
  | container => cases h
  | accessPointName => cases h

theorem exists_of_fits_half (h : NasIe.half.Fits r) : ∃ octet, r = .octets [octet] := by
  match r, h with
  | .octets image, h =>
    obtain ⟨octet, rfl⟩ := List.length_eq_one_iff.mp h
    exact ⟨octet, rfl⟩

omit [OgsNas] in
theorem setType_octet (tag octet : UInt8) :
    NasMessageType.setType tag (.octets [octet]) = .octets [Tbcd.octet octet (tag >>> 4)] := rfl

/-- An element with a tag is put behind what has been written, if there is room. -/
theorem appends_encodeOptional {cap : Nat} {m : UInt8 → Option NasRecord} (hcap : cap = nasCap)
    (hfits : ∀ r, m e.1 = some r → e.2.Fits r) :
    Codec.Appends cap (fun pkbuf => NasMessageType.encodeOptional m pkbuf e)
      ((m e.1).elim [] (taggedWire e)) := by
  subst hcap
  unfold NasMessageType.encodeOptional
  cases hm : m e.1 with
  | none => exact Codec.appends_ok nasCap
  | some r =>
    have hr := hfits r hm
    rw [Option.elim_some, taggedWire]
    by_cases hhalf : e.2.isHalf = true
    · simp only [if_pos hhalf]
      refine NasIe.appends_encode ?_
      rw [half_of_isHalf hhalf] at hr ⊢
      obtain ⟨octet, rfl⟩ := exists_of_fits_half hr
      rfl
    · simp only [if_neg hhalf]
      exact (appends_putOctets (Nat.le_refl [e.1].length)).bind (NasIe.appends_encode hr)

/-- An element with a tag is read as it was written. -/
theorem decode_taggedWire (he : e ∈ t.optional) (hfits : e.2.Fits r) (rest : Bytes)
    {m : UInt8 → Option NasRecord} (hm : m e.1 = none) :
    t.format.decode (taggedWire e r ++ rest) m =
      t.format.decode rest (Function.update m e.1 (some (taggedReceived e r))) := by
  have hlookup := lookup_of_mem t.distinct he
  have hkey (octet : UInt8) (htag : nasTag octet = e.1) :
      t.format.field (t.format.key octet) = some e.2.field := by
    simp only [NasMessageType.format, htag, hlookup, Option.map_some]
  have hold (octet : UInt8) (htag : nasTag octet = e.1) : m (t.format.key octet) = none := by
    rw [← hm]
    exact congrArg m htag
  rw [taggedWire, taggedReceived]
  by_cases hhalf : e.2.isHalf = true
  · rw [if_pos hhalf, if_pos hhalf]
    have heq := half_of_isHalf hhalf
    rw [heq] at hfits
    obtain ⟨octet, rfl⟩ := exists_of_fits_half hfits
    have htag := nasTag_octet ((t.isHalf_iff e he).mp hhalf) (t.nasTag_eq e he) octet
    have hread : e.2.field.read (m (t.format.key (Tbcd.octet octet (e.1 >>> 4))))
        (Tbcd.octet octet (e.1 >>> 4)) rest =
          .ok (.octets [Tbcd.octet octet (e.1 >>> 4)], 0) := by
      rw [heq]
      rfl
    rw [setType_octet, heq]
    change t.format.decode (Tbcd.octet octet (e.1 >>> 4) :: rest) m = _
    rw [Tagged.decode_known (hkey _ htag) hread]
    change t.format.decode rest (Function.update m (nasTag _) _) = _
    rw [htag]
  · rw [if_neg hhalf, if_neg hhalf, List.cons_append]
    have htag := t.nasTag_eq e he
    have hread : e.2.field.read (m (t.format.key e.1)) e.1 (e.2.wire r ++ rest) =
        .ok (e.2.received r, (e.2.wire r).length) := by
      rw [hold e.1 htag]
      exact NasIe.read_wire hfits (Bool.eq_false_iff.mpr hhalf)
    rw [Tagged.decode_known (hkey _ htag) hread, List.drop_left]
    change t.format.decode rest (Function.update m (nasTag _) _) = _
    rw [htag]

/-! ## Messages -/

namespace NasBody

/-- The octets of a message without its header -/
def wire (t : NasMessageType) (body : NasBody) : Bytes :=
  (t.mandatory.zip body.mandatory).flatMap (fun e => e.1.wire e.2) ++
    t.optional.flatMap fun e => (body.optional e.1).elim [] (taggedWire e)

/-- The elements are those of the message, and each has room for the octets it is said to have. -/
structure Fits (t : NasMessageType) (body : NasBody) : Prop where
  mandatory : List.Forall₂ NasIe.Fits t.mandatory body.mandatory
  optional : ∀ e ∈ t.optional, ∀ r, body.optional e.1 = some r → e.2.Fits r
  absent : ∀ tag, tag ∉ t.optional.map Prod.fst → body.optional tag = Option.none

/-- A message that has been set to zero, with the elements that are filled in -/
def make (mandatory : List NasRecord) (present : List (UInt8 × NasRecord)) : NasBody :=
  ⟨mandatory, fun tag => present.lookup tag⟩

/-- The elements of a message that has been filled in fit if each of them does. -/
theorem fits_make {mandatory : List NasRecord} {present : List (UInt8 × NasRecord)}
    (hmandatory : List.Forall₂ NasIe.Fits t.mandatory mandatory)
    (hpresent : ∀ e ∈ present, ∃ ie, t.optional.lookup e.1 = some ie ∧ ie.Fits e.2) :
    (make mandatory present).Fits t where
  mandatory := hmandatory
  optional e he r hr := by
    obtain ⟨ie, hie, hfits⟩ := hpresent _ (mem_of_lookup hr)
    rw [lookup_of_mem t.distinct he] at hie
    cases hie
    exact hfits
  absent tag htag := by
    cases hr : present.lookup tag with
    | none => exact hr
    | some r =>
      obtain ⟨ie, hie, -⟩ := hpresent _ (mem_of_lookup hr)
      rw [lookup_of_notMem htag] at hie
      cases hie

/-- What a message is when it has been encoded and decoded -/
def received (t : NasMessageType) (body : NasBody) : NasBody where
  mandatory := (t.mandatory.zip body.mandatory).map fun e => e.1.received e.2
  optional tag := (t.optional.lookup tag).bind fun ie =>
    (body.optional tag).map (taggedReceived (tag, ie))

end NasBody

/-- Every element that is always there has octets of its own. -/
def NasMessageType.IsWhole (t : NasMessageType) : Prop := ∀ ie ∈ t.mandatory, ie.isHalf = false

instance (t : NasMessageType) : Decidable t.IsWhole :=
  inferInstanceAs (Decidable (∀ ie ∈ t.mandatory, ie.isHalf = false))

theorem appends_encodeMandatory {ies : List NasIe} {records : List NasRecord}
    (h : List.Forall₂ NasIe.Fits ies records) :
    Codec.Appends nasCap (NasMessageType.encodeMandatory ies records)
      ((ies.zip records).flatMap fun e => e.1.wire e.2) := by
  induction h with
  | nil => exact Codec.appends_ok nasCap
  | cons hfits _ ih => exact (NasIe.appends_encode hfits).bind ih

/-- A message is put behind its header, if there is room. -/
theorem NasBody.appends_encode (h : body.Fits t) :
    Codec.Appends nasCap (t.encode body) (body.wire t) := by
  refine (appends_encodeMandatory h.mandatory).bind ?_
  exact Codec.Appends.foldlM fun e he => appends_encodeOptional rfl (h.optional e he)

/-- What was written is read, whatever is in front of it. -/
theorem NasBody.read_wire (h : body.Fits t) (hwhole : t.IsWhole) (x : UInt8) :
    t.read x (body.wire t) = .ok (body.received t) := by
  have hfst : (t.mandatory.zip body.mandatory).map (fun e => e.1.field) =
      t.mandatory.map NasIe.field := by
    have hlength := h.mandatory.length_eq
    have hzip := List.map_fst_zip (Nat.le_of_eq hlength)
    calc (t.mandatory.zip body.mandatory).map (fun e => e.1.field)
        = ((t.mandatory.zip body.mandatory).map Prod.fst).map NasIe.field := by
          rw [List.map_map]
          rfl
      _ = t.mandatory.map NasIe.field := by rw [hzip]
  have hmandatory := Tagged.readAll_flatMap
    (fun e : NasIe × NasRecord => e.1.field) (fun e => e.1.wire e.2) (fun e => e.1.received e.2)
    (fun e he x rest => NasIe.read_wire ((List.forall₂_iff_zip.mp h.mandatory).2 he)
      (hwhole e.1 (List.of_mem_zip he).1)) x
  obtain ⟨m', heq, hvalue, hother⟩ := Tagged.decode_flatMap (f := t.format)
    (m := fun _ => Option.none) Prod.fst (fun e => (body.optional e.1).elim [] (taggedWire e))
    (fun e => (body.optional e.1).map (taggedReceived e)) t.distinct (fun _ _ => rfl)
    (fun e _ hnone => by rw [Option.map_eq_none_iff.mp hnone]; rfl)
    (fun e he a ha rest m hm => by
      obtain ⟨r, hr, rfl⟩ := Option.map_eq_some_iff.mp ha
      rw [hr, Option.elim_some]
      exact decode_taggedWire he (h.optional e he r hr) rest hm) []
  rw [List.append_nil, Tagged.decode_nil] at heq
  have hoptional : m' = (body.received t).optional := by
    funext tag
    change m' tag = (t.optional.lookup tag).bind _
    by_cases hmem : tag ∈ t.optional.map Prod.fst
    · obtain ⟨e, he, rfl⟩ := List.mem_map.mp hmem
      rw [lookup_of_mem t.distinct he, Option.bind_some]
      exact hvalue e he
    · rw [lookup_of_notMem hmem, Option.bind_none]
      exact hother tag hmem
  rw [NasMessageType.read, NasBody.wire, ← hfst, hmandatory, ok_bind]
  change (t.format.decode _ _ >>= _) = _
  rw [heq, ok_bind, hoptional]
  rfl

end

end NextEpc

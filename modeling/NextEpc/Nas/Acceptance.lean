import NextEpc.Nas.MessageRoundTrip

/-!
# What the decoder accepts

Whether a message is decoded depends on its elements one by one: each must be there, and its record
must have room for it. Otherwise an assertion fails or memory behind the record is overwritten. The
elements with a tag may come in any order, and octets that are no tag are passed over.
-/

namespace NextEpc
open Fallible

section
variable [OgsNas] {t : NasMessageType} {x length : UInt8} {word rest more : Bytes}
  {m m' : UInt8 → Option NasRecord} {body : NasBody}

/-! ## Elements that cannot be read -/

/-- The element takes octets behind its tag. -/
def NasIe.hasOctets : NasIe → Bool
  | .copied c => match c.format with
    | .value n => n ≠ 0
    | _ => true
  | .half => false
  | _ => true

/-- Nothing is read of an element that has octets where there are none. -/
theorem NasIe.read_nil {ie : NasIe} (h : ie.hasOctets = true) (old : Option NasRecord) (x : UInt8) :
    ∃ e, ie.read old x [] = .error e := by
  cases hread : ie.read old x [] with
  | error e => exact ⟨e, rfl⟩
  | ok r =>
    exfalso
    obtain ⟨record, n⟩ := r
    have hn : n = 0 := Nat.le_zero.mp (NasIe.read_le_length hread)
    subst hn
    cases ie with
    | copied c =>
      obtain ⟨hsize, -⟩ := c.read_eq_ok.mp hread
      cases hformat : c.format with
      | value n =>
        rw [hformat] at hsize
        rw [NasIe.hasOctets, hformat] at h
        exact absurd (Except.ok.inj hsize) (of_decide_eq_true h)
      | lengthValue =>
        rw [hformat] at hsize
        cases hsize
      | lengthValue16 =>
        rw [hformat] at hsize
        cases hsize
    | half => cases h
    | container =>
      have hread : readContainer [] = .ok (record, 0) := hread
      obtain ⟨_, _, _, hword, -⟩ := readContainer_eq_ok.mp hread
      cases hword
    | accessPointName =>
      obtain ⟨hsize, -⟩ := readAccessPointName_eq_ok.mp hread
      cases hsize

omit [OgsNas] in
/-- An element with a length octet: its octets are missing, or the record has no room for them, or
it is read. -/
theorem NasCopied.read_lengthValue {c : NasCopied} (hformat : c.format = .lengthValue)
    (hsizeof : 1 ≤ c.sizeof) (old : Option NasRecord) (length : UInt8) (word : Bytes) :
    c.read old (length :: word) =
      if word.length < length.toNat then .error (.assert .pull)
      else if c.sizeof < length.toNat + 1 then .error .outOfBounds
      else .ok (.octets (c.toHost.apply (c.store old (length :: word) (length.toNat + 1))),
        length.toNat + 1) := by
  split_ifs with hshort hroom
  · have hwidth : ((length :: word).take c.format.lengthWidth).length ≤
        (NasRecord.memory c.sizeof old).length := by
      rw [hformat, length_memory]
      exact hsizeof
    have hsize : c.format.size (length :: word) = .ok (length.toNat + 1) := by rw [hformat]; rfl
    have hassert : assert NasSite.pull (length.toNat + 1 ≤ (length :: word).length) =
        .error (.assert .pull) := by
      rw [assert_eq_error, List.length_cons]
      exact ⟨by omega, rfl⟩
    rw [NasCopied.read, copyTo_of_le hwidth, ok_bind, hsize, ok_bind, hassert, error_bind]
  · have hwidth : ((length :: word).take c.format.lengthWidth).length ≤
        (NasRecord.memory c.sizeof old).length := by
      rw [hformat, length_memory]
      exact hsizeof
    have hsize : c.format.size (length :: word) = .ok (length.toNat + 1) := by rw [hformat]; rfl
    have hassert : assert NasSite.pull (length.toNat + 1 ≤ (length :: word).length) = .ok () := by
      rw [assert_eq_ok, List.length_cons]
      omega
    have hfail (record : Bytes) (hrecord : record.length = c.sizeof) :
        copyTo record ((length :: word).take (length.toNat + 1)) = .error .outOfBounds := by
      refine if_neg ?_
      rw [hrecord, List.length_take, List.length_cons]
      omega
    rw [NasCopied.read, copyTo_of_le hwidth, ok_bind, hsize, ok_bind, hassert, ok_bind, hfail]
    · rfl
    · rw [List.length_append, List.length_drop, length_memory] at *
      omega
  · refine c.read_eq_ok.mpr ⟨by rw [hformat]; rfl, ?_, ?_, by omega, rfl⟩
    · rw [List.length_cons]
      omega
    · rw [hformat]
      exact hsizeof

/-! ## Messages that can be read -/

namespace NasMessageType

/-- The octets of a message without its header that can be read: elements that are always there, and
then elements with a tag and octets that are no tag. -/
def Accepts (t : NasMessageType) (x : UInt8) (word : Bytes) : Prop :=
  ∃ l rest, Tagged.readAll (t.mandatory.map NasIe.field) x word = .ok (l, rest) ∧
    t.format.Accepts rest

theorem read_eq_ok : t.read x word = .ok body ↔
    ∃ rest, Tagged.readAll (t.mandatory.map NasIe.field) x word = .ok (body.mandatory, rest) ∧
      t.format.decode rest (fun _ => none) = .ok body.optional := by
  rw [read, bind_eq_ok]
  constructor
  · rintro ⟨⟨l, rest⟩, hread, hbody⟩
    obtain ⟨m, hdecode, heq⟩ := bind_eq_ok.mp hbody
    cases heq
    exact ⟨rest, hread, hdecode⟩
  · rintro ⟨rest, hread, hdecode⟩
    exact ⟨(body.mandatory, rest), hread, bind_eq_ok.mpr ⟨body.optional, hdecode, rfl⟩⟩

theorem exists_read_iff : (∃ body, t.read x word = .ok body) ↔ t.Accepts x word := by
  constructor
  · rintro ⟨body, h⟩
    obtain ⟨rest, hread, hdecode⟩ := read_eq_ok.mp h
    exact ⟨_, rest, hread, Tagged.decode_iff_accepts.mp ⟨_, hdecode⟩⟩
  · rintro ⟨l, rest, hread, haccepts⟩
    obtain ⟨m, hdecode⟩ := Tagged.decode_iff_accepts.mpr haccepts
    exact ⟨⟨l, m⟩, read_eq_ok.mpr ⟨rest, hread, hdecode⟩⟩

/-- Reading goes on behind a message that has been read. -/
theorem read_append (h : t.read x word = .ok body) (more : Bytes) :
    t.read x (word ++ more) = t.format.decode more body.optional >>= fun m =>
      .ok ⟨body.mandatory, m⟩ := by
  obtain ⟨rest, hread, hdecode⟩ := read_eq_ok.mp h
  rw [read, Tagged.readAll_append hread more, ok_bind]
  change (t.format.decode (rest ++ more) _ >>= _) = _
  rw [Tagged.decode_append hdecode]

/-- A message that can be read does not end in a tag whose octets are missing. -/
theorem read_append_tag (h : t.read x word = .ok body) {e : UInt8 × NasIe} (he : e ∈ t.optional)
    (hoctets : e.2.hasOctets = true) : ∃ fault, t.read x (word ++ [e.1]) = .error fault := by
  have hfield : t.format.field (t.format.key e.1) = some e.2.field := by
    simp only [format, t.nasTag_eq e he, lookup_of_mem t.distinct he, Option.map_some]
  obtain ⟨fault, hfault⟩ := NasIe.read_nil hoctets (body.optional (t.format.key e.1)) e.1
  refine ⟨fault, ?_⟩
  rw [read_append h, Tagged.decode_error hfield hfault, error_bind]

end NasMessageType

/-! ## EMM messages -/

/-- The octets of an EMM message that can be read -/
def EmmAccepts : Bytes → Prop
  | first :: type :: word =>
    if (⟨first, type⟩ : EmmHeader).IsServiceRequest then
      NasMessageType.serviceRequest.Accepts first (type :: word)
    else ∀ t, emmReceived type = some t → t.Accepts type word
  | _ => False

theorem exists_emmRead_iff {data : Bytes} :
    (∃ message, emmRead data = .ok message) ↔ EmmAccepts data := by
  rcases data with _ | ⟨first, _ | ⟨type, word⟩⟩
  · refine iff_of_false ?_ False.elim
    rintro ⟨message, h⟩
    cases h
  · refine iff_of_false ?_ False.elim
    rintro ⟨message, h⟩
    cases h
  · rw [emmRead, EmmAccepts]
    split_ifs with hservice
    · rw [← NasMessageType.exists_read_iff]
      constructor
      · rintro ⟨message, h⟩
        obtain ⟨body, hbody, -⟩ := bind_eq_ok.mp h
        exact ⟨body, hbody⟩
      · rintro ⟨body, hbody⟩
        exact ⟨⟨⟨first, type⟩, body⟩, bind_eq_ok.mpr ⟨body, hbody, rfl⟩⟩
    · cases htype : emmReceived type with
      | none =>
        refine iff_of_true ⟨_, rfl⟩ ?_
        intro t ht
        cases ht
      | some t =>
        constructor
        · rintro ⟨message, h⟩ t' ht'
          cases ht'
          obtain ⟨body, hbody, -⟩ := bind_eq_ok.mp h
          exact NasMessageType.exists_read_iff.mp ⟨body, hbody⟩
        · intro haccepts
          obtain ⟨body, hbody⟩ := NasMessageType.exists_read_iff.mpr (haccepts t rfl)
          exact ⟨⟨⟨first, type⟩, body⟩, bind_eq_ok.mpr ⟨body, hbody, rfl⟩⟩

/-- An EMM message is decoded, and the buffer left as it was, if each of its elements is there and
has a record with room for it. Every other message ends the program. -/
theorem ogsNasEmmDecode_returns_iff {p q : Pkbuf} (h : p.data.length < 2 ^ 16) :
    (∃ message, ogsNasEmmDecode p = .ok (message, q)) ↔ EmmAccepts p.data ∧ q = p := by
  rw [ogsNasEmmDecode_eq h, ← exists_emmRead_iff]
  constructor
  · rintro ⟨message, hok⟩
    obtain ⟨read, hread, heq⟩ := bind_eq_ok.mp hok
    cases heq
    exact ⟨⟨message, hread⟩, rfl⟩
  · rintro ⟨⟨message, hread⟩, rfl⟩
    exact ⟨message, bind_eq_ok.mpr ⟨message, hread, rfl⟩⟩

omit [OgsNas] in
theorem exists_hasOctets {type : UInt8} (ht : emmReceived type = some t) (hne : t.optional ≠ []) :
    ∃ e ∈ t.optional, e.2.hasOctets = true := by
  unfold emmReceived at ht
  split at ht <;> cases ht <;> first
    | exact absurd rfl hne
    | decide

/-- Behind every message that may have elements with a tag, there is an octet that ends the
program. -/
theorem exists_fault_of_tag {headroom : Bytes} {first type : UInt8} {message : NasEmmMessage}
    {q : Pkbuf} (hlen : word.length + 3 < 2 ^ 16)
    (hservice : ¬(⟨first, type⟩ : EmmHeader).IsServiceRequest) (ht : emmReceived type = some t)
    (hne : t.optional ≠ [])
    (h : ogsNasEmmDecode ⟨headroom, first :: type :: word⟩ = .ok (message, q)) :
    ∃ tag fault, ogsNasEmmDecode ⟨headroom, first :: type :: (word ++ [tag])⟩ = .error fault := by
  have hshort : (⟨headroom, first :: type :: word⟩ : Pkbuf).data.length < 2 ^ 16 := by
    change word.length + 1 + 1 < 2 ^ 16
    omega
  have hlong (tag : UInt8) :
      (⟨headroom, first :: type :: (word ++ [tag])⟩ : Pkbuf).data.length < 2 ^ 16 := by
    change (word ++ [tag]).length + 1 + 1 < 2 ^ 16
    rw [List.length_append, List.length_singleton]
    omega
  obtain ⟨e, he, hoctets⟩ := exists_hasOctets ht hne
  rw [ogsNasEmmDecode_eq hshort] at h
  obtain ⟨read, hread, -⟩ := bind_eq_ok.mp h
  rw [emmRead, if_neg hservice, ht] at hread
  obtain ⟨body, hbody, -⟩ := bind_eq_ok.mp hread
  obtain ⟨fault, hfault⟩ := NasMessageType.read_append_tag hbody he hoctets
  refine ⟨e.1, fault, ?_⟩
  rw [ogsNasEmmDecode_eq (hlong e.1)]
  change (emmRead (first :: type :: (word ++ [e.1])) >>= _) = _
  rw [emmRead, if_neg hservice, ht]
  simp only [hfault, error_bind]

/-- An element with a tag, as the encoder writes it -/
def NasMessageType.item {e : UInt8 × NasIe} (he : e ∈ t.optional) {r : NasRecord}
    (hfits : e.2.Fits r) (hhalf : e.2.isHalf = false) : t.format.Item where
  symbol := e.1
  word := e.2.wire r
  field := e.2.field
  value := e.2.received r
  field_eq := by
    simp only [format, t.nasTag_eq e he, lookup_of_mem t.distinct he, Option.map_some]
  read_eq _ := NasIe.read_wire hfits hhalf

/-- The elements with a tag may come in any order, with octets that are no tag between them: the
message that is decoded is the same. -/
theorem ogsNasEmmDecode_perm {headroom mandatory : Bytes} {first type : UInt8} {l : List NasRecord}
    {parts parts' : List t.format.Part} (hservice : ¬(⟨first, type⟩ : EmmHeader).IsServiceRequest)
    (ht : emmReceived type = some t)
    (hmandatory : Tagged.readAll (t.mandatory.map NasIe.field) type mandatory = .ok (l, []))
    (hperm : (parts.filterMap Tagged.Format.Part.item?).Perm
      (parts'.filterMap Tagged.Format.Part.item?))
    (hdistinct : ((parts.filterMap Tagged.Format.Part.item?).map Tagged.Format.Item.key).Nodup)
    (hlen : 2 + mandatory.length + (parts.flatMap Tagged.Format.Part.symbols).length < 2 ^ 16)
    (hlen' : 2 + mandatory.length + (parts'.flatMap Tagged.Format.Part.symbols).length < 2 ^ 16) :
    (ogsNasEmmDecode ⟨headroom, first :: type ::
        (mandatory ++ parts.flatMap Tagged.Format.Part.symbols)⟩).map Prod.fst =
      (ogsNasEmmDecode ⟨headroom, first :: type ::
        (mandatory ++ parts'.flatMap Tagged.Format.Part.symbols)⟩).map Prod.fst := by
  have hread (rest : Bytes) : t.read type (mandatory ++ rest) =
      t.format.decode rest (fun _ => none) >>= fun m => .ok ⟨l, m⟩ := by
    rw [NasMessageType.read, Tagged.readAll_append hmandatory rest]
    rfl
  have hdecode (rest : Bytes) (hrest : 2 + mandatory.length + rest.length < 2 ^ 16) :
      (ogsNasEmmDecode ⟨headroom, first :: type :: (mandatory ++ rest)⟩).map Prod.fst =
        t.format.decode rest (fun _ => none) >>= fun m => .ok ⟨⟨first, type⟩, ⟨l, m⟩⟩ := by
    have hlength : (⟨headroom, first :: type :: (mandatory ++ rest)⟩ : Pkbuf).data.length <
        2 ^ 16 := by
      change (mandatory ++ rest).length + 1 + 1 < 2 ^ 16
      rw [List.length_append]
      omega
    rw [ogsNasEmmDecode_eq hlength]
    change ((emmRead (first :: type :: (mandatory ++ rest)) >>= _).map Prod.fst) = _
    rw [emmRead, if_neg hservice, ht]
    simp only [hread]
    cases t.format.decode rest fun _ => none with
    | error e => rfl
    | ok m => rfl
  have hsame := Tagged.Format.Part.decode_perm (m := fun _ => none) hperm hdistinct
    (fun _ _ => rfl) []
  rw [List.append_nil, List.append_nil] at hsame
  rw [hdecode _ hlen, hdecode _ hlen', hsame]

/-! ## Records without room -/

/-- An element that is always there, with a length octet: if the message has the octets and the
record has no room for them, memory behind the record is overwritten. -/
theorem ogsNasEmmDecode_overflow {headroom front : Bytes} {first type : UInt8}
    {ies ies' : List NasIe} {c : NasCopied} {l : List NasRecord}
    (hservice : ¬(⟨first, type⟩ : EmmHeader).IsServiceRequest) (ht : emmReceived type = some t)
    (hies : t.mandatory = ies ++ .copied c :: ies')
    (hformat : c.format = .lengthValue) (hsizeof : 1 ≤ c.sizeof)
    (hfront : Tagged.readAll (ies.map NasIe.field) type front = .ok (l, []))
    (hroom : c.sizeof ≤ length.toNat) (hthere : length.toNat ≤ word.length)
    (hlen : 3 + front.length + word.length < 2 ^ 16) :
    ogsNasEmmDecode ⟨headroom, first :: type :: (front ++ length :: word)⟩ =
      .error .outOfBounds := by
  have hread (fields : List (Tagged.Field UInt8 NasRecord (Fault NasSite))) (x : UInt8) :
      Tagged.readAll ((NasIe.copied c).field :: fields) x (length :: word) =
        .error .outOfBounds := by
    have hfield : (NasIe.copied c).field.read none x (length :: word) = .error .outOfBounds := by
      change c.read none (length :: word) = _
      rw [NasCopied.read_lengthValue hformat hsizeof, if_neg (by omega), if_pos (by omega)]
    rw [Tagged.readAll, hfield]
    rfl
  obtain ⟨x', hmore⟩ := Tagged.readAll_concat (Tagged.readAll_append hfront (length :: word))
  have hall : t.read type (front ++ length :: word) = .error .outOfBounds := by
    rw [NasMessageType.read, hies, List.map_append, List.map_cons, hmore, List.nil_append, hread]
    rfl
  have hlength : (⟨headroom, first :: type :: (front ++ length :: word)⟩ : Pkbuf).data.length <
      2 ^ 16 := by
    change (front ++ length :: word).length + 1 + 1 < 2 ^ 16
    rw [List.length_append, List.length_cons]
    omega
  rw [ogsNasEmmDecode_eq hlength]
  change (emmRead (first :: type :: (front ++ length :: word)) >>= _) = _
  rw [emmRead, if_neg hservice, ht]
  simp only [hall, error_bind]

/-! ## Authentication Requests -/

/-- An Authentication Request with a RAND of sixteen octets and an AUTN -/
def authenticationBody (ksi : UInt8) (rand : Bytes) (last length : UInt8) (autn : Bytes) : NasBody :=
  .make [.octets [ksi], .octets (rand ++ [last]), .octets (length :: autn)] []

variable {ksi last first : UInt8} {rand autn : Bytes}

theorem fits_authenticationBody (hrand : rand.length = 15) (hautn : autn.length = 16)
    (hlength : length.toNat ≤ 16) :
    (authenticationBody ksi rand last length autn).Fits .authenticationRequest := by
  refine NasBody.fits_make (.cons rfl (.cons ⟨?_, 16, rfl, by decide, by decide⟩
    (.cons ⟨?_, length.toNat + 1, rfl, Nat.le_add_left 1 _, Nat.succ_le_succ hlength⟩ .nil))) nofun
  · rw [List.length_append, hrand, List.length_singleton]
  · rw [List.length_cons, hautn]

theorem wire_authenticationBody (hrand : rand.length = 15) :
    (authenticationBody ksi rand last length autn).wire .authenticationRequest =
      ksi :: (rand ++ last :: length :: autn.take length.toNat) := by
  have htake : (rand ++ [last]).take 16 = rand ++ [last] := by
    rw [List.take_of_length_le]
    rw [List.length_append, hrand, List.length_singleton]
  change [ksi] ++ ((rand ++ [last]).take 16 ++ ((length :: autn).take (length.toNat + 1) ++ [])) ++
    [] = _
  rw [htake, List.append_nil, List.append_nil, List.take_succ_cons]
  simp only [List.cons_append, List.nil_append, List.append_assoc]

/-- The element in front is read from the octet of the message type, and its own octet is the first
of the RAND. So the last octet of the RAND is the length of the AUTN. -/
theorem read_authenticationBody (hrand : rand.length = 15) (hlength : length.toNat ≤ 16)
    (hautn : autn.length = 16) :
    NasMessageType.authenticationRequest.read x
        ((authenticationBody ksi rand last length autn).wire .authenticationRequest) =
      if length.toNat + 1 < last.toNat then .error (.assert .pull)
      else if 16 < last.toNat then .error .outOfBounds
      else .ok (.make [.octets [x], .octets (ksi :: rand), .octets (last ::
        ((length :: autn.take length.toNat).take last.toNat ++
          List.replicate (16 - last.toNat) 0))] []) := by
  have hfield (type : UInt8) : NasMessageType.authenticationRequest.format.field type = none := rfl
  have hrest : (length :: autn.take length.toNat).length = length.toNat + 1 := by
    rw [List.length_cons, List.length_take, hautn, Nat.min_eq_left hlength]
  have hlen : (ksi :: rand).length = 16 := by rw [List.length_cons, hrand]
  have hksi (word : Bytes) :
      NasIe.keySetIdentifier.field.read none x word = .ok (.octets [x], 0) := rfl
  have hrand' : NasIe.authenticationParameterRand.field.read none x
      (ksi :: (rand ++ last :: length :: autn.take length.toNat)) =
        .ok (.octets (ksi :: rand), 16) := by
    refine NasCopied.read_eq_ok.mpr ⟨rfl, ?_, Nat.zero_le _, Nat.le_refl _, ?_⟩
    · rw [← List.cons_append, List.length_append, hlen]
      exact Nat.le_add_right _ _
    · rw [← List.cons_append, NasCopied.store_none hlen (Nat.zero_le _)]
      exact congrArg NasRecord.octets (List.append_nil _).symm
  have hautn' (y : UInt8) : NasIe.authenticationParameterAutn.field.read none y
      (last :: length :: autn.take length.toNat) =
      if length.toNat + 1 < last.toNat then .error (.assert .pull)
      else if 16 < last.toNat then .error .outOfBounds
      else .ok (.octets (last :: ((length :: autn.take length.toNat).take last.toNat ++
        List.replicate (16 - last.toNat) 0)), last.toNat + 1) := by
    refine (NasCopied.read_lengthValue rfl (by decide) none last _).trans ?_
    rw [hrest]
    refine if_congr Iff.rfl rfl (if_congr Nat.succ_lt_succ_iff rfl ?_)
    have hmemory : (last :: List.replicate 16 (0 : UInt8)).drop (last.toNat + 1) =
        List.replicate (16 - last.toNat) 0 := by rw [List.drop_succ_cons, List.drop_replicate]
    rw [← hmemory]
    rfl
  have hdrop (word : Bytes) : (ksi :: (rand ++ word)).drop 16 = word := by
    rw [← List.cons_append, List.drop_left' hlen]
  have hfront (word : Bytes) : Tagged.front x word 0 = x := rfl
  change (Tagged.readAll [NasIe.keySetIdentifier.field, NasIe.authenticationParameterRand.field,
    NasIe.authenticationParameterAutn.field] x _ >>= _) = _
  rw [wire_authenticationBody hrand]
  simp only [Tagged.readAll, hksi, ok_bind, hfront, List.drop_zero, hrand', hdrop, hautn']
  split_ifs
  · rfl
  · rfl
  · simp only [ok_bind, Tagged.decode_of_unknown hfield]
    rfl

omit [OgsNas] in
theorem eq_of_cons_eq_append {α : Type} {a b : α} {l : List α} (h : a :: l = l ++ [b]) : a = b := by
  induction l generalizing a with
  | nil => exact List.head_eq_of_cons_eq h
  | cons c l ih =>
    rw [List.cons_append, List.cons.injEq] at h
    exact h.1.trans (ih h.2)

/-- The decoder does not read an Authentication Request as it was encoded, whatever is in it. -/
theorem ogsNasEmmDecode_authenticationRequest (hrand : rand.length = 15) (hautn : autn.length = 16)
    (hlength : length.toNat ≤ 16) (hservice : ¬(⟨first, 0x52⟩ : EmmHeader).IsServiceRequest)
    {p : Pkbuf} (hp : ogsNasEmmEncode
      ⟨⟨first, 0x52⟩, authenticationBody ksi rand last length autn⟩ = .ok (some p)) :
    ogsNasEmmDecode p =
        (if length.toNat + 1 < last.toNat then .error (.assert .pull)
        else if 16 < last.toNat then .error .outOfBounds
        else .ok (⟨⟨first, 0x52⟩, .make [.octets [0x52], .octets (ksi :: rand), .octets (last ::
          ((length :: autn.take length.toNat).take last.toNat ++
            List.replicate (16 - last.toNat) 0))] []⟩, p)) ∧
      ∀ q, ogsNasEmmDecode p ≠
        .ok (⟨⟨first, 0x52⟩, authenticationBody ksi rand last length autn⟩, q) := by
  have hbody : (authenticationBody ksi rand last length autn).Fits .authenticationRequest :=
    fits_authenticationBody hrand hautn hlength
  have hsent : (⟨first, 0x52⟩ : EmmHeader).sent = some .authenticationRequest := by
    rw [EmmHeader.sent, if_neg hservice]
    rfl
  obtain ⟨hroom, rfl⟩ := (ogsNasEmmEncode_eq_ok hsent hbody).mp hp
  have hwire : NasEmmMessage.wire .authenticationRequest
      ⟨⟨first, 0x52⟩, authenticationBody ksi rand last length autn⟩ = first :: 0x52 ::
        (authenticationBody ksi rand last length autn).wire .authenticationRequest := by
    rw [NasEmmMessage.wire, EmmHeader.wire, if_neg hservice]
    rfl
  have hdecode (p : Pkbuf) (hp : p.data = first :: 0x52 ::
      (authenticationBody ksi rand last length autn).wire .authenticationRequest)
      (hlt : p.data.length < 2 ^ 16) : ogsNasEmmDecode p =
        if length.toNat + 1 < last.toNat then .error (.assert .pull)
        else if 16 < last.toNat then .error .outOfBounds
        else .ok (⟨⟨first, 0x52⟩, .make [.octets [0x52], .octets (ksi :: rand), .octets (last ::
          ((length :: autn.take length.toNat).take last.toNat ++
            List.replicate (16 - last.toNat) 0))] []⟩, p) := by
    rw [ogsNasEmmDecode_eq hlt, hp, emmRead, if_neg hservice]
    change ((NasMessageType.authenticationRequest.read 0x52 _ >>= _) >>= _) = _
    rw [read_authenticationBody hrand hlength hautn]
    split_ifs <;> rfl
  have heq := hdecode _ hwire (length_lt_of_le_nasCap hroom)
  refine ⟨heq, fun q hsame => ?_⟩
  rw [heq] at hsame
  split_ifs at hsame with hshort hlarge
  -- the RAND begins with the octet in front of it only if all are the same
  have hmessage := congrArg (fun r => r.1.body.mandatory) (Except.ok.inj hsame)
  simp only [authenticationBody, NasBody.make, List.cons.injEq, NasRecord.octets.injEq, and_true]
    at hmessage
  obtain ⟨hksi, hrand', -⟩ := hmessage
  rw [← hksi] at hrand'
  rw [← eq_of_cons_eq_append hrand'] at hlarge
  exact hlarge (by decide)

end

section
attribute [local instance] OgsNas.reference

theorem emmAccepts_attachReject : EmmAccepts [0x07, 0x44, 0x0f] :=
  ((ogsNasEmmDecode_returns_iff (p := ⟨[], [0x07, 0x44, 0x0f]⟩) (by decide)).mp ⟨_, rfl⟩).1

theorem exists_fault_attachReject :
    ∃ tag fault, ogsNasEmmDecode ⟨[], [0x07, 0x44, 0x0f, tag]⟩ = .error fault :=
  @exists_fault_of_tag _ _ [0x0f] _ _ _ _ _ (by decide) (by decide) rfl (by decide) rfl

/-- The two timers of an Attach Reject -/
theorem ogsNasEmmDecode_attachReject_perm :
    (ogsNasEmmDecode ⟨[], [0x07, 0x44, 0x0f, 0x5f, 1, 0x21, 0x16, 1, 0x22]⟩).map Prod.fst =
      (ogsNasEmmDecode ⟨[], [0x07, 0x44, 0x0f, 0x16, 1, 0x22, 0x01, 0x5f, 1, 0x21]⟩).map
        Prod.fst := by
  have hfits (value : UInt8) : NasIe.gprsTimer2.Fits (.octets [1, value]) :=
    ⟨rfl, 2, rfl, by decide, by decide⟩
  let t3346 := NasMessageType.item (t := .attachReject) (.tail _ (.head _)) (hfits 0x21) rfl
  let t3402 := NasMessageType.item (t := .attachReject) (.tail _ (.tail _ (.head _))) (hfits 0x22)
    rfl
  have hdistinct : ([0x5f, 0x16] : List UInt8).Nodup := by decide
  have hlen : 2 + 1 + 6 < 2 ^ 16 := by decide
  have hlen' : 2 + 1 + 7 < 2 ^ 16 := by decide
  exact @ogsNasEmmDecode_perm _ _ [] [0x0f] _ _ _ [.item t3346, .item t3402]
    [.item t3402, .unknown 0x01 rfl, .item t3346] (by decide) rfl rfl (List.Perm.swap _ _ _)
    hdistinct hlen hlen'

/-- An Attach Request whose UE network capability is said to have eight octets -/
theorem ogsNasEmmDecode_attachRequest_overflow :
    ogsNasEmmDecode ⟨[], [0x07, 0x41, 0x71, 1, 0x01, 8, 0, 0, 0, 0, 0, 0, 0, 0]⟩ =
      .error .outOfBounds :=
  @ogsNasEmmDecode_overflow _ _ _ _ [] [0x71, 1, 0x01] _ _ [.epsAttachType, .epsMobileIdentity]
    _ _ _ (by decide) rfl rfl rfl (by decide) rfl (by decide) (by decide) (by decide)

/-- An Authentication Request whose RAND is zero, with another octet for its AUTN -/
theorem ogsNasEmmDecode_authenticationRequest_zero :
    let p : Pkbuf := .alloc ogsNasHeadroom (0x07 :: 0x52 :: 3 :: (List.replicate 16 0 ++
      [16] ++ List.replicate 16 0xaa))
    ogsNasEmmDecode p = .ok (⟨⟨0x07, 0x52⟩, .make [.octets [0x52],
      .octets (3 :: List.replicate 15 0), .octets (List.replicate 17 0)] []⟩, p) :=
  (@ogsNasEmmDecode_authenticationRequest _ 16 3 0 0x07 (List.replicate 15 0)
    (List.replicate 16 0xaa) (by decide) (by decide) (by decide) (by decide) _
    (by decide +kernel)).1

end

end NextEpc

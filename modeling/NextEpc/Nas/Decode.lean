import NextEpc.Nas.Message

/-!
# What the decoder reads

A message is a word of tagged fields behind others that are not announced. The decoder reads it as
such, whatever is in front of the message, and pushes back all octets that it has pulled.
-/

namespace NextEpc
open Fallible

section
variable {p : Pkbuf} {x : UInt8} {headroom word rest : Bytes}
  {m : UInt8 → Option NasRecord} {n k : Nat}

/-! ## Pulled octets -/

theorem pulled_pulled : pulled (pulled p n) k = pulled p (n + k) := by
  have hdata : (pulled p n).data = p.data.drop n := rfl
  have htake : p.data.take (n + k) = p.data.take n ++ (p.data.drop n).take k := by
    rw [List.take_add]
  have hheadroom : (pulled p n).headroom = (p.data.take n).reverse ++ p.headroom := rfl
  rw [pulled, hdata, hheadroom, List.drop_drop, pulled, htake, List.reverse_append,
    List.append_assoc]

/-- What has been pulled can be pushed. -/
theorem push_pulled (h : n ≤ p.data.length) : (pulled p n).push n = some p := by
  have hlen : (p.data.take n).length = n := by
    rw [List.length_take]
    omega
  have hpush := Pkbuf.push_eq (p.data.take n) p.headroom (p.data.drop n)
  rw [hlen, List.take_append_drop] at hpush
  exact hpush

/-- What is in front of the data after some octets have been pulled. -/
theorem pulled_cons (x : UInt8) (headroom : Bytes) (h : n ≤ word.length) : ∃ headroom',
    pulled ⟨x :: headroom, word⟩ n = ⟨Tagged.front x word n :: headroom', word.drop n⟩ := by
  cases n with
  | zero => exact ⟨headroom, rfl⟩
  | succ n =>
    have hlt : n < word.length := h
    have hfront : Tagged.front x word (n + 1) = word[n] := by
      rw [Tagged.front, List.drop_succ_cons, List.drop_eq_getElem_cons hlt, List.headD_cons]
    refine ⟨(word.take n).reverse ++ x :: headroom, ?_⟩
    rw [hfront, pulled, List.take_add_one, List.getElem?_eq_getElem hlt, Option.toList_some,
      List.reverse_append]
    rfl

/-- The octets are there to be pulled. -/
theorem assertSome_pull_of_le (h : n ≤ p.data.length) :
    assertSome NasSite.pull (p.pull n) = .ok (pulled p n) := by
  rw [assertSome_pull, assert_of h, ok_bind]

variable [OgsNas]

/-! ## Fields -/

namespace NasMessageType
variable (t : NasMessageType)

/-- The elements with a tag -/
def format : Tagged.Format UInt8 UInt8 NasRecord (Fault NasSite) where
  key := nasTag
  field type := (t.optional.lookup type).map NasIe.field

/-- What is read of a message behind the octet `x` -/
def read (x : UInt8) (word : Bytes) : NasM NasBody := do
  let (mandatory, rest) ← Tagged.readAll (t.mandatory.map NasIe.field) x word
  let optional ← t.format.decode rest fun _ => none
  .ok ⟨mandatory, optional⟩

/-- The elements that are always there are read as fields. -/
theorem decodeMandatory_eq (ies : List NasIe) (x : UInt8) (headroom word : Bytes) :
    decodeMandatory ies ⟨x :: headroom, word⟩ =
      Tagged.readAll (ies.map NasIe.field) x word >>= fun (l, rest) =>
        .ok (l, pulled ⟨x :: headroom, word⟩ (word.length - rest.length),
          word.length - rest.length) := by
  induction ies generalizing x headroom word with
  | nil =>
    change Except.ok _ = Except.ok _
    rw [Nat.sub_self]
    rfl
  | cons ie ies ih =>
    rw [decodeMandatory, List.map_cons, Tagged.readAll, ie.decode_eq]
    change _ = (ie.read none x word >>= _) >>= _
    cases hread : ie.read none x word with
    | error e => rfl
    | ok r =>
      obtain ⟨record, n⟩ := r
      have hle := NasIe.read_le_length hread
      obtain ⟨headroom', hpulled⟩ := pulled_cons x headroom hle
      change (decodeMandatory ies (pulled ⟨x :: headroom, word⟩ n) >>= _) =
        (Tagged.readAll _ (Tagged.front x word n) (word.drop n) >>= _) >>= _
      rw [hpulled, ih, ← hpulled]
      cases hrest : Tagged.readAll (ies.map NasIe.field) (Tagged.front x word n) (word.drop n) with
      | error e => rfl
      | ok q =>
        obtain ⟨l, rest⟩ := q
        have hsuffix := (Tagged.readAll_suffix hrest).length_le
        have hlength : (word.drop n).length = word.length - n := List.length_drop
        rw [hlength] at hsuffix
        have hcount : n + (word.length - n - rest.length) = word.length - rest.length := by omega
        change Except.ok _ = Except.ok _
        rw [hlength, pulled_pulled, hcount]

/-- The loop reads all fields, if it goes on as long as there is data. -/
theorem decodeOptional_eq (fuel : Nat) (p : Pkbuf) (m : UInt8 → Option NasRecord) (decoded : Nat)
    (hfuel : p.data.length ≤ fuel) : t.decodeOptional fuel p m decoded =
      t.format.decode p.data m >>= fun m =>
        .ok (m, pulled p p.data.length, decoded + p.data.length) := by
  induction fuel generalizing p m decoded with
  | zero =>
    obtain ⟨headroom, word⟩ := p
    obtain rfl : word = [] := List.length_eq_zero_iff.mp (Nat.le_zero.mp hfuel)
    rfl
  | succ fuel ih =>
    obtain ⟨headroom, word⟩ := p
    cases word with
    | nil => rfl
    | cons octet word =>
      rw [List.length_cons] at hfuel
      have hone : pulled ⟨headroom, octet :: word⟩ 1 = ⟨octet :: headroom, word⟩ := rfl
      have hpull : assertSome NasSite.pull (Pkbuf.pull ⟨headroom, octet :: word⟩ 1) =
          .ok ⟨octet :: headroom, word⟩ :=
        assertSome_pull_of_le (Nat.le_add_left 1 _)
      have hall : (⟨headroom, octet :: word⟩ : Pkbuf).data.length = 1 + word.length :=
        Nat.add_comm _ _
      rw [hall, ← pulled_pulled, hone, ← Nat.add_assoc]
      simp only [decodeOptional, hpull, ok_bind]
      cases hlookup : t.optional.lookup (nasTag octet) with
      | none =>
        have hfield : t.format.field (t.format.key octet) = none := by
          simp only [format, hlookup, Option.map_none]
        rw [ih _ m _ (by simpa using hfuel), Tagged.decode_unknown hfield]
      | some ie =>
        have hfield : t.format.field (t.format.key octet) = some ie.field := by
          simp only [format, hlookup, Option.map_some]
        simp only [ie.decode_eq]
        cases hread : ie.read (m (nasTag octet)) octet word with
        | error e => rw [Tagged.decode_error hfield hread]; rfl
        | ok r =>
          obtain ⟨record, n⟩ := r
          have hle := NasIe.read_le_length hread
          rw [Tagged.decode_known hfield hread]
          change t.decodeOptional fuel (pulled ⟨octet :: headroom, word⟩ n) _ _ = _
          have hlength : (pulled ⟨octet :: headroom, word⟩ n).data.length = word.length - n :=
            List.length_drop
          rw [ih _ _ _ (by omega), hlength, pulled_pulled]
          have hcount : n + (word.length - n) = word.length := by omega
          rw [hcount, Nat.add_assoc (decoded + 1), hcount]
          rfl

/-- A message is read as fields, and some of its octets are pulled. -/
theorem decode_eq (x : UInt8) (headroom word : Bytes) : ∃ n, n ≤ word.length ∧
    t.decode ⟨x :: headroom, word⟩ = t.read x word >>= fun body =>
      .ok (body, pulled ⟨x :: headroom, word⟩ n, n) := by
  rw [decode, decodeMandatory_eq, read]
  cases hread : Tagged.readAll (t.mandatory.map NasIe.field) x word with
  | error e => exact ⟨0, Nat.zero_le _, rfl⟩
  | ok r =>
    obtain ⟨l, rest⟩ := r
    have hsuffix := Tagged.readAll_suffix hread
    have hle := hsuffix.length_le
    simp only [ok_bind]
    by_cases hempty : t.optional = []
    · have hfield (type : UInt8) : t.format.field type = none := by
        simp only [format, hempty, List.lookup_nil, Option.map_none]
      refine ⟨word.length - rest.length, Nat.sub_le _ _, ?_⟩
      rw [if_pos hempty, Tagged.decode_of_unknown hfield]
      rfl
    · have hdata : (pulled ⟨x :: headroom, word⟩ (word.length - rest.length)).data = rest :=
        (List.suffix_iff_eq_drop.mp hsuffix).symm
      refine ⟨word.length, Nat.le_refl _, ?_⟩
      rw [if_neg hempty, decodeOptional_eq t _ _ _ _ (Nat.le_refl _), hdata,
        pulled_pulled, Nat.sub_add_cancel hle]
      simp only [bind_assoc, ok_bind]

end NasMessageType

/-! ## Messages -/

/-- What is read of an EMM message -/
def emmRead : Bytes → NasM NasEmmMessage
  | [] => .error (.assert .empty)
  | [_] => .error (.assert .pull)
  | first :: type :: word =>
    if (⟨first, type⟩ : EmmHeader).IsServiceRequest then do
      let body ← NasMessageType.serviceRequest.read first (type :: word)
      .ok ⟨⟨first, type⟩, body⟩
    else
      match emmReceived type with
      | none => .ok ⟨⟨first, type⟩, .none⟩
      | some t => do
        let body ← t.read type word
        .ok ⟨⟨first, type⟩, body⟩

/-- What is read of an ESM message -/
def esmRead : Bytes → NasM NasEsmMessage
  | [] => .error (.assert .empty)
  | [_] => .error (.assert .pull)
  | [_, _] => .error (.assert .pull)
  | first :: pti :: type :: word =>
    match esmType type with
    | none => .ok ⟨⟨first, pti, type⟩, .none⟩
    | some t => do
      let body ← t.read type word
      .ok ⟨⟨first, pti, type⟩, body⟩

/-- A body that was decoded behind `k` octets is pushed back with them. -/
theorem decode_push (t : NasMessageType) {p : Pkbuf} {k : Nat} (hlen : p.data.length < 2 ^ 16)
    (hk : k ≤ p.data.length) (hfront : pulled p k = ⟨x :: headroom, word⟩) {β : Type}
    (f : NasBody → Pkbuf → NasM β) :
    (t.decode (pulled p k) >>= fun d =>
      assertSome NasSite.push (d.2.1.push ((k + d.2.2) % 2 ^ 16)) >>= fun q => f d.1 q) =
      t.read x word >>= fun body => f body p := by
  obtain ⟨n, hn, heq⟩ := t.decode_eq x headroom word
  have hdata : word = p.data.drop k := by
    have hsame := congrArg Pkbuf.data hfront
    exact hsame.symm
  have hword : word.length = p.data.length - k := by rw [hdata, List.length_drop]
  have hmod : (k + n) % 2 ^ 16 = k + n := Nat.mod_eq_of_lt (by omega)
  have hpush : (pulled p (k + n)).push (k + n) = some p := push_pulled (by omega)
  rw [hfront, heq, bind_assoc]
  cases t.read x word with
  | error e => rfl
  | ok body =>
    simp only [ok_bind, ← hfront, pulled_pulled, hmod, hpush, assertSome_some]

/-- An EMM message is read, and the buffer is as before. -/
theorem ogsNasEmmDecode_eq {p : Pkbuf} (h : p.data.length < 2 ^ 16) :
    ogsNasEmmDecode p = emmRead p.data >>= fun message => .ok (message, p) := by
  obtain ⟨headroom, data⟩ := p
  match data, h with
  | [], _ => rfl
  | [_], _ => rfl
  | first :: type :: word, h =>
    have hlen : 2 ≤ (first :: type :: word).length := Nat.le_add_left 2 _
    have hpull : assertSome NasSite.pull (Pkbuf.pull ⟨headroom, first :: type :: word⟩ 2) =
        .ok (pulled ⟨headroom, first :: type :: word⟩ 2) := assertSome_pull_of_le hlen
    have hpush : (pulled ⟨headroom, first :: type :: word⟩ 2).push 1 =
        some (pulled ⟨headroom, first :: type :: word⟩ 1) :=
      push_pulled (p := pulled ⟨headroom, first :: type :: word⟩ 1) (Nat.le_add_left 1 _)
    have hback : (pulled ⟨headroom, first :: type :: word⟩ 2).push 2 =
        some ⟨headroom, first :: type :: word⟩ := push_pulled hlen
    unfold ogsNasEmmDecode emmRead
    rw [assert_of (List.cons_ne_nil _ _), ok_bind, hpull, ok_bind]
    by_cases hservice : (⟨first, type⟩ : EmmHeader).IsServiceRequest
    · simp only [List.getD_cons_zero, List.getD_cons_succ, if_pos hservice, hpush, assertSome_some,
        ok_bind, bind_assoc]
      exact decode_push .serviceRequest h (Nat.le_add_left 1 _) rfl
        fun body q => .ok ((⟨⟨first, type⟩, body⟩ : NasEmmMessage), q)
    · simp only [List.getD_cons_zero, List.getD_cons_succ, if_neg hservice]
      cases emmReceived type with
      | none => simp only [hback, assertSome_some, ok_bind]
      | some t =>
        simp only [bind_assoc, ok_bind]
        exact decode_push t h hlen rfl fun body q => .ok ((⟨⟨first, type⟩, body⟩ : NasEmmMessage), q)

/-- An ESM message is read, and the buffer is as before. -/
theorem ogsNasEsmDecode_eq {p : Pkbuf} (h : p.data.length < 2 ^ 16) :
    ogsNasEsmDecode p = esmRead p.data >>= fun message => .ok (message, p) := by
  obtain ⟨headroom, data⟩ := p
  match data, h with
  | [], _ => rfl
  | [_], _ => rfl
  | [_, _], _ => rfl
  | first :: pti :: type :: word, h =>
    have hlen : 3 ≤ (first :: pti :: type :: word).length := Nat.le_add_left 3 _
    have hpull : assertSome NasSite.pull (Pkbuf.pull ⟨headroom, first :: pti :: type :: word⟩ 3) =
        .ok (pulled ⟨headroom, first :: pti :: type :: word⟩ 3) := assertSome_pull_of_le hlen
    have hback : (pulled ⟨headroom, first :: pti :: type :: word⟩ 3).push 3 =
        some ⟨headroom, first :: pti :: type :: word⟩ := push_pulled hlen
    unfold ogsNasEsmDecode esmRead
    rw [assert_of (List.cons_ne_nil _ _), ok_bind, hpull, ok_bind]
    simp only [List.getD_cons_zero, List.getD_cons_succ]
    cases esmType type with
    | none => simp only [hback, assertSome_some, ok_bind]
    | some t =>
      simp only [bind_assoc, ok_bind]
      exact decode_push t h hlen rfl fun body q =>
        .ok ((⟨⟨first, pti, type⟩, body⟩ : NasEsmMessage), q)

end

end NextEpc

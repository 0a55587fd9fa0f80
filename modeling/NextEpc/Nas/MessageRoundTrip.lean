import NextEpc.Nas.Normal
import NextEpc.Nas.RoundTrip

/-!
# Round trips of NAS messages

What the encoder makes of a message is decoded to that message, element by element as it is read
back. The messages without a round trip are the Detach Request, which is encoded as one to the UE
and decoded as one from the UE, and those that have a key set identifier in front.
-/

namespace NextEpc
open Fallible

section
variable [OgsNas]

/-! ## Types of messages -/

/-- `OGS_NAS_DETACH_REQUEST` -/
def ogsNasDetachRequest : UInt8 := 0x45

/-- `OGS_NAS_AUTHENTICATION_REQUEST` -/
def ogsNasAuthenticationRequest : UInt8 := 0x52

/-- `OGS_NAS_SECURITY_MODE_COMMAND` -/
def ogsNasSecurityModeCommand : UInt8 := 0x5d

/-- The function of the encoder for a header -/
def EmmHeader.sent (h : EmmHeader) : Option NasMessageType :=
  if h.IsServiceRequest then some .serviceRequest else emmSent h.messageType

/-- The header is not one of a message that is decoded in another way. -/
def EmmHeader.IsPlain (h : EmmHeader) : Prop :=
  h.IsServiceRequest ∨ h.messageType ≠ ogsNasDetachRequest ∧
    h.messageType ≠ ogsNasAuthenticationRequest ∧ h.messageType ≠ ogsNasSecurityModeCommand

instance (h : EmmHeader) : Decidable h.IsPlain := inferInstanceAs (Decidable (_ ∨ _))

omit [OgsNas] in
/-- The encoder and the decoder only differ in the Detach Request. -/
theorem emmReceived_eq_emmSent {type : UInt8} (h : type ≠ ogsNasDetachRequest) :
    emmReceived type = emmSent type := by
  unfold emmReceived
  split <;> try first
    | rfl
    | exact absurd rfl h
  unfold emmSent
  split <;> first
    | rfl
    | contradiction

omit [OgsNas] in
theorem isWhole_of_emmSent {type : UInt8} {t : NasMessageType} (ht : emmSent type = some t)
    (hauthentication : type ≠ ogsNasAuthenticationRequest)
    (hsecurity : type ≠ ogsNasSecurityModeCommand) : t.IsWhole := by
  unfold emmSent at ht
  split at ht <;> cases ht <;> first
    | decide
    | exact absurd rfl hauthentication
    | exact absurd rfl hsecurity

omit [OgsNas] in
theorem isWhole_of_esmType {type : UInt8} {t : NasMessageType} (ht : esmType type = some t) :
    t.IsWhole := by
  unfold esmType at ht
  split at ht <;> cases ht <;> decide

/-! ## Encoding -/

/-- The octets of the header that are left in front of the elements -/
def EmmHeader.wire (h : EmmHeader) : Bytes := if h.IsServiceRequest then [h.first] else h.octets

/-- An EMM message -/
def NasEmmMessage.wire (t : NasMessageType) (message : NasEmmMessage) : Bytes :=
  message.h.wire ++ message.body.wire t

/-- An ESM message -/
def NasEsmMessage.wire (t : NasMessageType) (message : NasEsmMessage) : Bytes :=
  message.h.octets ++ message.body.wire t

variable {t : NasMessageType} {h : EmmHeader} {body : NasBody} {p : Pkbuf}

/-- A service request consists of three octets behind the first of its header. -/
theorem exists_wire_serviceRequest (hbody : body.Fits .serviceRequest) :
    ∃ ksi mac, body.wire .serviceRequest = ksi :: mac ∧ mac.length = 2 := by
  obtain ⟨mandatory, optional⟩ := body
  match mandatory, hbody.mandatory with
  | [.octets ksi, .octets mac], .cons hksi (.cons hmac .nil) =>
    obtain ⟨hksi, _⟩ := hksi
    obtain ⟨hmac, _⟩ := hmac
    obtain ⟨octet, rfl⟩ := List.length_eq_one_iff.mp hksi
    refine ⟨octet, (swapAt 0 2 mac).take 2, ?_, ?_⟩
    · change octet :: ((swapAt 0 2 mac).take 2 ++ [] ++ []) = _
      rw [List.append_nil, List.append_nil]
    · rw [List.length_take, length_swapAt, hmac]
      rfl

theorem putOctets_header {octets : Bytes} {word : Bytes} :
    putOctets nasCap octets octets.length [] = .ok word ↔
      octets.length ≤ nasCap ∧ word = octets := by
  have hput : Codec.Appends nasCap _ _ := appends_putOctets (Nat.le_refl octets.length)
  have happends := hput [] (Nat.zero_le _) word
  rw [List.take_length, List.length_nil, Nat.zero_add, List.nil_append] at happends
  exact happends

/-- The elements are put behind what is there of the header. -/
theorem encode_header_eq_ok {octets : Bytes} (hbody : body.Fits t)
    (hlength : octets.length ≤ nasCap) :
    (t.encode body octets >>= fun pkbuf => .ok (some (.alloc ogsNasHeadroom pkbuf))) =
      (.ok (some p) : NasM (Option Pkbuf)) ↔
      (octets ++ body.wire t).length ≤ nasCap ∧
        p = .alloc ogsNasHeadroom (octets ++ body.wire t) := by
  rw [bind_eq_ok, List.length_append]
  constructor
  · rintro ⟨word, hword, hp⟩
    obtain ⟨hroom, rfl⟩ := (NasBody.appends_encode hbody octets hlength word).mp hword
    cases hp
    exact ⟨hroom, rfl⟩
  · rintro ⟨hroom, rfl⟩
    exact ⟨_, (NasBody.appends_encode hbody octets hlength _).mpr ⟨hroom, rfl⟩, rfl⟩

/-- An EMM message is encoded if there is room for it. -/
theorem ogsNasEmmEncode_eq_ok (ht : h.sent = some t) (hbody : body.Fits t) :
    ogsNasEmmEncode ⟨h, body⟩ = .ok (some p) ↔ (NasEmmMessage.wire t ⟨h, body⟩).length ≤ nasCap ∧
      p = .alloc ogsNasHeadroom (NasEmmMessage.wire t ⟨h, body⟩) := by
  have hput (word : Bytes) : putOctets nasCap h.octets 2 [] = .ok word ↔
      2 ≤ nasCap ∧ word = h.octets := putOctets_header
  have htwo : (NasEmmMessage.wire t ⟨h, body⟩).length ≤ nasCap → 2 ≤ nasCap := by
    intro hroom
    rw [NasEmmMessage.wire, EmmHeader.wire, List.length_append] at hroom
    split_ifs at hroom with hservice
    · rw [EmmHeader.sent, if_pos hservice, Option.some.injEq] at ht
      subst ht
      obtain ⟨ksi, mac, hwire, hmac⟩ := exists_wire_serviceRequest hbody
      rw [hwire, List.length_cons, List.length_cons, hmac] at hroom
      omega
    · change 2 + (body.wire t).length ≤ nasCap at hroom
      omega
  by_cases hroom : 2 ≤ nasCap
  · have hstep : putOctets nasCap h.octets 2 [] = .ok h.octets := (hput _).mpr ⟨hroom, rfl⟩
    rw [ogsNasEmmEncode, hstep, ok_bind, NasEmmMessage.wire, EmmHeader.wire]
    rw [EmmHeader.sent] at ht
    split_ifs at ht ⊢ with hservice
    · cases ht
      exact encode_header_eq_ok hbody (Nat.le_of_succ_le hroom)
    · rw [ht]
      exact encode_header_eq_ok hbody hroom
  · refine iff_of_false ?_ fun hle => hroom (htwo hle.1)
    intro hok
    rw [ogsNasEmmEncode] at hok
    obtain ⟨word, hword, -⟩ := bind_eq_ok.mp hok
    exact hroom ((hput word).mp hword).1

/-- An ESM message is encoded if there is room for it. -/
theorem ogsNasEsmEncode_eq_ok {h : EsmHeader} (ht : esmType h.messageType = some t)
    (hbody : body.Fits t) : ogsNasEsmEncode ⟨h, body⟩ = .ok (some p) ↔
      (NasEsmMessage.wire t ⟨h, body⟩).length ≤ nasCap ∧
        p = .alloc ogsNasHeadroom (NasEsmMessage.wire t ⟨h, body⟩) := by
  have hput (word : Bytes) : putOctets nasCap h.octets 3 [] = .ok word ↔
      3 ≤ nasCap ∧ word = h.octets := putOctets_header
  have hthree : (NasEsmMessage.wire t ⟨h, body⟩).length ≤ nasCap → 3 ≤ nasCap := by
    intro hroom
    rw [NasEsmMessage.wire, List.length_append] at hroom
    change 3 + (body.wire t).length ≤ nasCap at hroom
    omega
  by_cases hroom : 3 ≤ nasCap
  · have hstep : putOctets nasCap h.octets 3 [] = .ok h.octets := (hput _).mpr ⟨hroom, rfl⟩
    rw [ogsNasEsmEncode, hstep, ok_bind, ht]
    exact encode_header_eq_ok hbody hroom
  · refine iff_of_false ?_ fun hle => hroom (hthree hle.1)
    intro hok
    rw [ogsNasEsmEncode] at hok
    obtain ⟨word, hword, -⟩ := bind_eq_ok.mp hok
    exact hroom ((hput word).mp hword).1

/-! ## Decoding what was encoded -/

/-- What an EMM message is when it has been encoded and decoded. The message type of a service
request is its first octet. -/
def NasEmmMessage.received (t : NasMessageType) (message : NasEmmMessage) : NasEmmMessage where
  h := if message.h.IsServiceRequest then ⟨message.h.first, (message.body.wire t).headD 0⟩
    else message.h
  body := message.body.received t

/-- What an ESM message is when it has been encoded and decoded -/
def NasEsmMessage.received (t : NasMessageType) (message : NasEsmMessage) : NasEsmMessage where
  h := message.h
  body := message.body.received t

theorem emmRead_wire (ht : h.sent = some t) (hbody : body.Fits t) (hplain : h.IsPlain) :
    emmRead (NasEmmMessage.wire t ⟨h, body⟩) = .ok (NasEmmMessage.received t ⟨h, body⟩) := by
  rw [NasEmmMessage.wire, EmmHeader.wire, NasEmmMessage.received]
  rw [EmmHeader.sent] at ht
  split_ifs at ht ⊢ with hservice
  · cases ht
    obtain ⟨ksi, mac, hwire, -⟩ := exists_wire_serviceRequest hbody
    have hread := NasBody.read_wire hbody (by decide) h.first
    rw [hwire] at hread ⊢
    have hsame : (⟨h.first, ksi⟩ : EmmHeader).IsServiceRequest := hservice
    rw [List.singleton_append, emmRead, if_pos hsame, hread, ok_bind, List.headD_cons]
  · obtain ⟨hdetach, hauthentication, hsecurity⟩ := hplain.resolve_left hservice
    have hwhole := isWhole_of_emmSent ht hauthentication hsecurity
    have hread := NasBody.read_wire hbody hwhole h.messageType
    rw [← emmReceived_eq_emmSent hdetach] at ht
    change emmRead (h.first :: h.messageType :: body.wire t) = _
    rw [emmRead, if_neg hservice, ht]
    simp only [hread, ok_bind]

theorem esmRead_wire {h : EsmHeader} (ht : esmType h.messageType = some t) (hbody : body.Fits t) :
    esmRead (NasEsmMessage.wire t ⟨h, body⟩) = .ok (NasEsmMessage.received t ⟨h, body⟩) := by
  have hread := NasBody.read_wire hbody (isWhole_of_esmType ht) h.messageType
  change esmRead (h.first :: h.procedureTransactionIdentity :: h.messageType :: body.wire t) = _
  rw [esmRead, ht]
  simp only [hread, ok_bind]
  rfl

theorem length_lt_of_le_nasCap {word : Bytes} (h : word.length ≤ nasCap) :
    (Pkbuf.alloc ogsNasHeadroom word).data.length < 2 ^ 16 := by
  have hmax := OgsNas.maxSduLen_lt
  change word.length < 2 ^ 16
  unfold nasCap at h
  omega

theorem ogsNasEmmDecode_wire (ht : h.sent = some t) (hbody : body.Fits t) (hplain : h.IsPlain)
    (hroom : (NasEmmMessage.wire t ⟨h, body⟩).length ≤ nasCap) :
    ogsNasEmmDecode (.alloc ogsNasHeadroom (NasEmmMessage.wire t ⟨h, body⟩)) =
      .ok (NasEmmMessage.received t ⟨h, body⟩,
        .alloc ogsNasHeadroom (NasEmmMessage.wire t ⟨h, body⟩)) := by
  rw [ogsNasEmmDecode_eq (length_lt_of_le_nasCap hroom)]
  change (emmRead (NasEmmMessage.wire t ⟨h, body⟩) >>= _) = _
  rw [emmRead_wire ht hbody hplain, ok_bind]

theorem ogsNasEsmDecode_wire {h : EsmHeader} (ht : esmType h.messageType = some t)
    (hbody : body.Fits t) (hroom : (NasEsmMessage.wire t ⟨h, body⟩).length ≤ nasCap) :
    ogsNasEsmDecode (.alloc ogsNasHeadroom (NasEsmMessage.wire t ⟨h, body⟩)) =
      .ok (NasEsmMessage.received t ⟨h, body⟩,
        .alloc ogsNasHeadroom (NasEsmMessage.wire t ⟨h, body⟩)) := by
  rw [ogsNasEsmDecode_eq (length_lt_of_le_nasCap hroom)]
  change (esmRead (NasEsmMessage.wire t ⟨h, body⟩) >>= _) = _
  rw [esmRead_wire ht hbody, ok_bind]

/-- Every element comes back as it is, and those that are the half of an octet have their tag. -/
structure NasBody.IsNormal (t : NasMessageType) (body : NasBody) : Prop where
  mandatory : List.Forall₂ NasIe.IsNormal t.mandatory body.mandatory
  optional : ∀ e ∈ t.optional, ∀ r, body.optional e.1 = some r → taggedReceived e r = r

theorem map_received_eq_iff {ies : List NasIe} {records : List NasRecord}
    (h : ies.length = records.length) :
    (ies.zip records).map (fun e => e.1.received e.2) = records ↔
      List.Forall₂ NasIe.IsNormal ies records := by
  induction ies generalizing records with
  | nil =>
    obtain rfl := List.length_eq_zero_iff.mp h.symm
    exact iff_of_true rfl .nil
  | cons ie ies ih =>
    cases records with
    | nil => cases h
    | cons r records =>
      rw [List.zip_cons_cons, List.map_cons, List.cons.injEq, List.forall₂_cons,
        ih (Nat.succ.inj h)]
      rfl

/-- A message comes back as it is if all its elements do. -/
theorem NasBody.received_eq_self_iff (hbody : body.Fits t) :
    body.received t = body ↔ body.IsNormal t := by
  have hlength := hbody.mandatory.length_eq
  have hvalue (e : UInt8 × NasIe) (he : e ∈ t.optional) :
      (body.received t).optional e.1 = (body.optional e.1).map (taggedReceived e) := by
    change (t.optional.lookup e.1).bind _ = _
    rw [lookup_of_mem t.distinct he, Option.bind_some]
  constructor
  · intro heq
    refine ⟨(map_received_eq_iff hlength).mp (congrArg NasBody.mandatory heq), fun e he r hr => ?_⟩
    have hsame := hvalue e he
    rw [heq, hr, Option.map_some, Option.some.injEq] at hsame
    exact hsame.symm
  · intro hnormal
    have hmandatory := (map_received_eq_iff hlength).mpr hnormal.mandatory
    have hoptional : (body.received t).optional = body.optional := by
      funext tag
      by_cases hmem : tag ∈ t.optional.map Prod.fst
      · obtain ⟨e, he, rfl⟩ := List.mem_map.mp hmem
        rw [hvalue e he]
        cases hr : body.optional e.1 with
        | none => rfl
        | some r => rw [Option.map_some, hnormal.optional e he r hr]
      · rw [hbody.absent tag hmem]
        change (t.optional.lookup tag).bind _ = _
        rw [lookup_of_notMem hmem, Option.bind_none]
    obtain ⟨mandatory, optional⟩ := body
    exact NasBody.mk.injEq .. ▸ ⟨hmandatory, hoptional⟩

/-- An EMM message that is encoded is decoded element by element, and the buffer is as before. It is
the same message if its elements come back as they are. -/
theorem ogsNasEmmDecode_ogsNasEmmEncode (ht : h.sent = some t) (hbody : body.Fits t)
    (hplain : h.IsPlain) (hp : ogsNasEmmEncode ⟨h, body⟩ = .ok (some p)) :
    ogsNasEmmDecode p = .ok (NasEmmMessage.received t ⟨h, body⟩, p) ∧
      (¬h.IsServiceRequest →
        (NasEmmMessage.received t ⟨h, body⟩ = ⟨h, body⟩ ↔ body.IsNormal t)) := by
  obtain ⟨hroom, rfl⟩ := (ogsNasEmmEncode_eq_ok ht hbody).mp hp
  refine ⟨ogsNasEmmDecode_wire ht hbody hplain hroom, fun hservice => ?_⟩
  rw [NasEmmMessage.received, if_neg hservice, NasEmmMessage.mk.injEq, and_iff_right rfl]
  exact NasBody.received_eq_self_iff hbody

/-- An ESM message that is encoded is decoded element by element, and the buffer is as before. It is
the same message if its elements come back as they are. -/
theorem ogsNasEsmDecode_ogsNasEsmEncode {h : EsmHeader} (ht : esmType h.messageType = some t)
    (hbody : body.Fits t) (hp : ogsNasEsmEncode ⟨h, body⟩ = .ok (some p)) :
    ogsNasEsmDecode p = .ok (NasEsmMessage.received t ⟨h, body⟩, p) ∧
      (NasEsmMessage.received t ⟨h, body⟩ = ⟨h, body⟩ ↔ body.IsNormal t) := by
  obtain ⟨hroom, rfl⟩ := (ogsNasEsmEncode_eq_ok ht hbody).mp hp
  refine ⟨ogsNasEsmDecode_wire ht hbody hroom, ?_⟩
  rw [NasEsmMessage.received, NasEsmMessage.mk.injEq, and_iff_right rfl]
  exact NasBody.received_eq_self_iff hbody

end

section
attribute [local instance] OgsNas.reference

/-- An Attach Reject with a cause, a timer and an extended cause comes back as it is. -/
theorem ogsNasEmmDecode_attachReject :
    let message : NasEmmMessage :=
      ⟨⟨0x07, 0x44⟩, .make [.octets [0x0f]] [(0x5f, .octets [1, 0x21]), (0xa0, .octets [0xa2])]⟩
    let p : Pkbuf := .alloc ogsNasHeadroom [0x07, 0x44, 0x0f, 0x5f, 1, 0x21, 0xa2]
    ogsNasEmmEncode message = .ok (some p) ∧
      ogsNasEmmDecode p = .ok (NasEmmMessage.received .attachReject message, p) := by
  refine ⟨by decide +kernel, (ogsNasEmmDecode_ogsNasEmmEncode rfl (NasBody.fits_make
    (.cons ⟨rfl, 1, rfl, by decide, by decide⟩ .nil) fun e he => ?_) (by decide)
      (by decide +kernel)).1⟩
  match e, he with
  | _, .head _ => exact ⟨_, rfl, rfl, 2, rfl, by decide, by decide⟩
  | _, .tail _ (.head _) => exact ⟨_, rfl, rfl⟩

/-- A PDN Connectivity Reject with a cause and a timer comes back as it is. -/
theorem ogsNasEsmDecode_pdnConnectivityReject :
    let message : NasEsmMessage :=
      ⟨⟨0x02, 0x01, 0xd1⟩, .make [.octets [0x1b]] [(0x37, .octets [1, 0x21])]⟩
    let p : Pkbuf := .alloc ogsNasHeadroom [0x02, 0x01, 0xd1, 0x1b, 0x37, 1, 0x21]
    ogsNasEsmEncode message = .ok (some p) ∧
      ogsNasEsmDecode p = .ok (NasEsmMessage.received .pdnConnectivityReject message, p) := by
  refine ⟨by decide +kernel, (ogsNasEsmDecode_ogsNasEsmEncode rfl (NasBody.fits_make
    (.cons ⟨rfl, 1, rfl, by decide, by decide⟩ .nil) fun e he => ?_) (by decide +kernel)).1⟩
  match e, he with
  | _, .head _ => exact ⟨_, rfl, rfl, 2, rfl, by decide, by decide⟩

end

end NextEpc

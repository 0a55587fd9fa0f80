import NextEpc.Mme.NasCount

/-!
# Genuine uplink messages

What a UE sends that holds the same keys as the MME: the message ciphered if the header
type says so, the low bits of the count, and the authentication code under the full count.
The MME accepts each such message, recovers the count and is left with the message.
-/

namespace NextEpc
section
variable [OgsCrypt]

/-! ## What the algorithms compute -/

/-- The authentication code of some octets, for the algorithms EIA1, EIA2 and EIA3. -/
def nasMac (algorithmIdentity : UInt8) (knasInt : Octets16) (count : UInt32)
    (bearer direction : UInt8) (data : Bytes) : Octets4 :=
  match algorithmIdentity with
  | 1 => OgsCrypt.snow3gF9 knasInt count (bearer.toUInt32 <<< 27) direction data
  | 2 => (OgsCrypt.aesCmac knasInt (nasIvec count bearer direction ++ data)).take 4
  | 3 => Octets.htonl (OgsCrypt.zucEia3 knasInt count bearer direction data)
  | _ => Vector.replicate 4 0

/-- Some octets ciphered with EEA0, EEA1, EEA2 or EEA3. -/
def nasCipher (algorithmIdentity : UInt8) (knasEnc : Octets16) (count : UInt32)
    (bearer direction : UInt8) (data : Bytes) : Bytes :=
  match nasKeyStream algorithmIdentity knasEnc count bearer direction with
  | .ok (some stream) => Octets.xorStream stream data
  | _ => data

/-- `128-EIA1`, `128-EIA2` and `128-EIA3` -/
def NasIntegrityAlgorithm (algorithm : UInt8) : Prop :=
  algorithm = 1 ∨ algorithm = 2 ∨ algorithm = 3

/-- `EEA0`, `128-EEA1`, `128-EEA2` and `128-EEA3` -/
def NasCipheringAlgorithm (algorithm : UInt8) : Prop :=
  algorithm = 0 ∨ algorithm = 1 ∨ algorithm = 2 ∨ algorithm = 3

omit [OgsCrypt] in
theorem NasIntegrityAlgorithm.ne_zero {algorithm : UInt8} (h : NasIntegrityAlgorithm algorithm) :
    algorithm ≠ 0 := by
  rcases h with rfl | rfl | rfl <;> decide

variable {algorithm : UInt8} {knasInt knasEnc : Octets16} {count : UInt32}
  {bearer direction : UInt8} {data headroom : Bytes} {mac : Octets4} {pkbuf : Pkbuf}

@[simp] theorem nasCipher_nasCipher : nasCipher algorithm knasEnc count bearer direction
    (nasCipher algorithm knasEnc count bearer direction data) = data := by
  unfold nasCipher
  cases nasKeyStream algorithm knasEnc count bearer direction with
  | error _ => rfl
  | ok stream =>
    cases stream with
    | none => rfl
    | some stream => simp

@[simp] theorem length_nasCipher :
    (nasCipher algorithm knasEnc count bearer direction data).length = data.length := by
  unfold nasCipher
  split <;> simp

theorem nasCipher_ne_nil (h : data ≠ []) :
    nasCipher algorithm knasEnc count bearer direction data ≠ [] := by
  intro hnil
  have hlen := congrArg List.length hnil
  rw [length_nasCipher] at hlen
  exact h (List.length_eq_zero_iff.mp hlen)

omit [OgsCrypt] in
@[simp] theorem length_nasIvec : (nasIvec count bearer direction).length = 8 := by
  simp [nasIvec]

/-- The code is computed over the data, which stays as it is. With EIA2 the last octets of
the headroom are overwritten. -/
theorem nasMacCalculate_eq (halgorithm : NasIntegrityAlgorithm algorithm) (knasInt : Octets16)
    (count : UInt32) (bearer direction : UInt8) (mac : Octets4) (hdata : data ≠ [])
    (hroom : 8 ≤ headroom.length) :
    ∃ headroom', headroom'.length = headroom.length ∧
      nasMacCalculate algorithm knasInt count bearer direction ⟨headroom, data⟩ mac =
        .ok (⟨headroom', data⟩, nasMac algorithm knasInt count bearer direction data) := by
  unfold nasMacCalculate
  rw [Fallible.assert_of hdata, Fallible.ok_bind]
  rcases halgorithm with rfl | rfl | rfl
  · exact ⟨headroom, rfl, rfl⟩
  · have hpush : Pkbuf.push ⟨headroom, data⟩ 8 =
        some ⟨headroom.drop 8, (headroom.take 8).reverse ++ data⟩ := by
      simp [Pkbuf.push, hroom]
    have hwrite : (Pkbuf.mk (headroom.drop 8) ((headroom.take 8).reverse ++ data)).write
        (nasIvec count bearer direction) =
          ⟨headroom.drop 8, nasIvec count bearer direction ++ data⟩ := by
      have hdrop : ((headroom.take 8).reverse ++ data).drop 8 = data := by
        rw [List.drop_append_of_le_length (by simpa using hroom),
          List.drop_of_length_le (by simp), List.nil_append]
      rw [Pkbuf.write, length_nasIvec, hdrop]
    have hpull := Pkbuf.pull_eq (nasIvec count bearer direction) data (headroom.drop 8)
    rw [length_nasIvec] at hpull
    refine ⟨(nasIvec count bearer direction).reverse ++ headroom.drop 8, ?_, ?_⟩
    · simp
      omega
    · simp only [hpush, hwrite, hpull, nasMac]
  · exact ⟨headroom, rfl, rfl⟩

theorem nasEncrypt_eq (halgorithm : NasCipheringAlgorithm algorithm) (hdata : pkbuf.data ≠ []) :
    nasEncrypt algorithm knasEnc count bearer direction pkbuf =
      .ok { pkbuf with data := nasCipher algorithm knasEnc count bearer direction pkbuf.data } := by
  unfold nasEncrypt nasCipher
  rw [Fallible.assert_of hdata, Fallible.ok_bind]
  rcases halgorithm with rfl | rfl | rfl | rfl <;> rfl

/-! ## The sender -/

/-- An uplink message and the header it is sent with. -/
inductive NasUplink
  | message (securityHeaderType : UInt8) (plain : Bytes)
  | serviceRequest (ksi : UInt8)
  deriving DecidableEq, Repr

/-- The authentication code under the keys of the UE. -/
def MmeUe.uplinkMac (ue : MmeUe) (c : Nat) (data : Bytes) : Octets4 :=
  nasMac ue.selectedIntAlgorithm ue.knasInt (UInt32.ofNat (c % 2 ^ 24)) nasSecurityBearer
    nasSecurityUplinkDirection data

/-- A message ciphered with the keys of the UE. -/
def MmeUe.uplinkCipher (ue : MmeUe) (c : Nat) (data : Bytes) : Bytes :=
  nasCipher ue.selectedEncAlgorithm ue.knasEnc (UInt32.ofNat (c % 2 ^ 24)) nasSecurityBearer
    nasSecurityUplinkDirection data

/-- The header types that ask for ciphering. -/
def nasHeaderCiphered (securityHeaderType : UInt8) : Bool :=
  securityHeaderType == 2 || securityHeaderType == 4

/-- The header types that start a new security context. -/
def nasHeaderNew (securityHeaderType : UInt8) : Bool :=
  securityHeaderType == 3 || securityHeaderType == 4

/-- The octets of a protected message. -/
def nasMessageOctets (first : UInt8) (mac : Octets4) (sequenceNumber : UInt8) (body : Bytes) :
    Bytes :=
  [first] ++ mac.toList ++ [sequenceNumber] ++ body

/-- The octets that are sent for a message with count `c`. -/
def NasUplink.pdu (ue : MmeUe) (c : Nat) : NasUplink → Bytes
  | .message securityHeaderType plain =>
    let body := if nasHeaderCiphered securityHeaderType then ue.uplinkCipher c plain else plain
    let sequenceNumber := UInt8.ofNat c
    nasMessageOctets (securityHeaderType <<< 4 ||| 0x07)
      (ue.uplinkMac c (sequenceNumber :: body)) sequenceNumber body
  | .serviceRequest ksi =>
    let octets := [NasSecurityHeader.forServiceRequestMessage <<< 4 ||| 0x07,
      ksi <<< 5 ||| UInt8.ofNat (c % 32)]
    let mac := ue.uplinkMac c octets
    octets ++ mac.toList.drop 2

/-- A header type of protected messages with a message, or a Service Request. -/
def NasUplink.WellFormed : NasUplink → Prop
  | .message securityHeaderType plain =>
    (securityHeaderType = 1 ∨ securityHeaderType = 2 ∨ securityHeaderType = 3 ∨
      securityHeaderType = 4) ∧ plain ≠ []
  | .serviceRequest _ => True

/-- The counts that the MME can rebuild when it last saw `s`. -/
def NasUplink.Window (s c : Nat) : NasUplink → Prop
  | .message securityHeaderType _ =>
    if nasHeaderNew securityHeaderType then c ≤ 255 else s ≤ c ∧ c ≤ s + 255
  | .serviceRequest _ => s ≤ c ∧ c ≤ s + 31

instance (s c : Nat) : (u : NasUplink) → Decidable (u.Window s c)
  | .message securityHeaderType _ =>
    if hnew : nasHeaderNew securityHeaderType then
      decidable_of_iff (c ≤ 255) (by simp [NasUplink.Window, hnew])
    else decidable_of_iff (s ≤ c ∧ c ≤ s + 255) (by simp [NasUplink.Window, hnew])
  | .serviceRequest _ => inferInstanceAs (Decidable (s ≤ c ∧ c ≤ s + 31))

/-- What the MME decodes: the message, or all octets of a Service Request. -/
def NasUplink.decoded (ue : MmeUe) (c : Nat) : NasUplink → Bytes
  | .message _ plain => plain
  | .serviceRequest ksi => NasUplink.pdu ue c (.serviceRequest ksi)

/-! ## The receiver -/

/-- The header stripping of `s1ap_send_to_nas` and `nas_security_decode`. The caller asserts
that both succeed. -/
def nasReceive (ue : MmeUe) (nasPdu : Bytes) : MmeM (MmeUe × Pkbuf) := do
  let (type, nasbuf) ← Fallible.assertSome .s1apSendToNas (← s1apStripSecurityHeader nasPdu)
  let (ue, nasbuf, rv) ← nasSecurityDecode ue type nasbuf
  Fallible.assert .s1apSendToNas (rv = .ok)
  .ok (ue, nasbuf)

/-- The count from which the one of a message is rebuilt. -/
def MmeUe.baseCount (ue : MmeUe) (securityHeaderType : UInt8) : UlCount :=
  if nasHeaderNew securityHeaderType then .zero else ue.ulCount

/-- The mark that is left by a check of the authentication code. -/
def MmeUe.checked (ue : MmeUe) (ok : Bool) : MmeUe :=
  { ue with macFailed := ue.macFailed || !ok }

/-- The authentication code of a PDU is checked under some count, with some result. -/
inductive NasChecked (ue : MmeUe) : Bytes → UlCount → Bool → Prop
  | message {first sequenceNumber : UInt8} {mac : Octets4} {body : Bytes} {count : UlCount} :
    (nasProtectedHeaderType (first >>> 4)).isSome → ue.securityContextAvailable = true →
    NasIntegrityAlgorithm ue.selectedIntAlgorithm →
    count = (ue.baseCount (first >>> 4)).next sequenceNumber →
    NasChecked ue (nasMessageOctets first mac sequenceNumber body) count
      (mac = ue.uplinkMac count.toNat (sequenceNumber :: body))
  | serviceRequest {first ksiAndSequenceNumber m0 m1 : UInt8} {rest : Bytes}
      {count : UlCount} :
    first >>> 4 = NasSecurityHeader.forServiceRequestMessage →
    NasIntegrityAlgorithm ue.selectedIntAlgorithm →
    count = ue.ulCount.next
      (ue.ulCount.estimatedSequenceNumber (ksiAndSequenceNumber &&& 0x1f)) →
    NasChecked ue (first :: ksiAndSequenceNumber :: m0 :: m1 :: rest) count
      ((ue.uplinkMac count.toNat [first, ksiAndSequenceNumber]).toList.drop 2 = [m0, m1])

variable {ue ue' : MmeUe} {type : NasSecurityHeaderType} {h : NasSecurityHeaderOctets}
  {first sqn : UInt8} {received : Octets4} {body pdu : Bytes} {c : Nat} {ok : Bool}

omit [OgsCrypt] in
theorem nasProtectedHeaderType_some (h : nasProtectedHeaderType first = some type) :
    type.integrityProtected = true ∧ type.serviceRequest = false ∧
      type.ciphered = nasHeaderCiphered first ∧ type.newSecurityContext = nasHeaderNew first ∧
      first ≠ NasSecurityHeader.plainNasMessage ∧
      first ≠ NasSecurityHeader.forServiceRequestMessage := by
  unfold nasProtectedHeaderType at h
  split at h
  all_goals
    cases h
    try decide

omit [OgsCrypt] in
theorem exists_eq_octets4 (v : Octets4) : ∃ m0 m1 m2 m3, v = #v[m0, m1, m2, m3] := by
  obtain ⟨⟨octets⟩, hsize⟩ := v
  match octets, hsize with
  | [m0, m1, m2, m3], _ => exact ⟨m0, m1, m2, m3, rfl⟩

omit [OgsCrypt] in
theorem read_nasMessageOctets : NasSecurityHeaderOctets.read
    (nasMessageOctets first received sqn body) = .ok ⟨first, received, sqn⟩ := by
  obtain ⟨m0, m1, m2, m3, rfl⟩ := exists_eq_octets4 received
  rfl

omit [OgsCrypt] in
/-- The buffer starts behind the security header, which stays in front of it. -/
theorem s1apStripSecurityHeader_message (htype : nasProtectedHeaderType (first >>> 4) = some type) :
    s1apStripSecurityHeader (nasMessageOctets first received sqn body) =
      .ok (some (type, ⟨([first] ++ received.toList ++ [sqn]).reverse ++
        List.replicate nasHeadroom 0, body⟩)) := by
  obtain ⟨-, -, -, -, hplain, hservice⟩ := nasProtectedHeaderType_some htype
  have hpull : (Pkbuf.alloc nasHeadroom (nasMessageOctets first received sqn body)).pull 6 =
      some ⟨([first] ++ received.toList ++ [sqn]).reverse ++ List.replicate nasHeadroom 0,
        body⟩ := by
    have hlen : ([first] ++ received.toList ++ [sqn]).length = 6 := by simp
    have hpull := Pkbuf.pull_eq ([first] ++ received.toList ++ [sqn]) body
      (List.replicate nasHeadroom 0)
    rw [hlen] at hpull
    exact hpull
  have hcons : nasMessageOctets first received sqn body =
      first :: (received.toList ++ [sqn] ++ body) := by
    simp [nasMessageOctets]
  rw [hcons] at hpull ⊢
  simp only [s1apStripSecurityHeader, hpull, if_neg hplain, if_neg hservice, htype,
    Fallible.assertSome_some, Fallible.ok_bind]

omit [OgsCrypt] in
theorem MmeUe.checked_eq {α : Type} [DecidableEq α] {a b : α} :
    (if a ≠ b then { ue with macFailed := true } else ue) = ue.checked (a = b) := by
  by_cases hab : a = b
  · rw [if_neg (not_not.mpr hab)]
    simp [MmeUe.checked, hab]
  · rw [if_pos hab]
    simp [MmeUe.checked, hab]

theorem MmeUe.uplinkMac_toNat (ue : MmeUe) (count : UlCount) (data : Bytes) :
    ue.uplinkMac count.toNat data = nasMac ue.selectedIntAlgorithm ue.knasInt count.i32
      nasSecurityBearer nasSecurityUplinkDirection data := by
  rw [MmeUe.uplinkMac, Nat.mod_eq_of_lt count.toNat_lt]
  rfl

/-- With the buffer at the sequence number, the code is compared with the one computed over
what follows it, and the message is deciphered. -/
theorem nasSecurityUnprotect_eq (ue : MmeUe) (type : NasSecurityHeaderType)
    (h : NasSecurityHeaderOctets) (sqn : UInt8) (body : Bytes)
    (halgorithm : NasIntegrityAlgorithm ue.selectedIntAlgorithm)
    (hroom : 8 ≤ headroom.length) (htype : type.integrityProtected = true) :
    ∃ headroom', nasSecurityUnprotect ue type h ⟨headroom, sqn :: body⟩ =
      ((if type.ciphered then
        nasEncrypt ue.selectedEncAlgorithm ue.knasEnc ue.ulCount.i32 nasSecurityBearer
          nasSecurityUplinkDirection ⟨headroom', body⟩
      else .ok ⟨headroom', body⟩) >>= fun nasbuf =>
        .ok (ue.checked (h.messageAuthenticationCode =
          ue.uplinkMac ue.ulCount.toNat (sqn :: body)), nasbuf)) := by
  obtain ⟨headroom1, hlen, hmac⟩ := nasMacCalculate_eq halgorithm ue.knasInt ue.ulCount.i32
    nasSecurityBearer nasSecurityUplinkDirection (Vector.replicate 4 0)
    (List.cons_ne_nil sqn body) hroom
  refine ⟨[sqn] ++ (h.messageAuthenticationCode.toList.reverse ++ headroom1.drop 4), ?_⟩
  have hpull : (Pkbuf.writeBefore ⟨headroom1, sqn :: body⟩
      h.messageAuthenticationCode.toList).pull 1 =
      some ⟨[sqn] ++ (h.messageAuthenticationCode.toList.reverse ++ headroom1.drop 4),
        body⟩ := by
    simp [Pkbuf.writeBefore, Pkbuf.pull]
  unfold nasSecurityUnprotect
  simp only [if_pos htype, hmac, Fallible.ok_bind, hpull, Fallible.assertSome_some,
    MmeUe.checked_eq, MmeUe.uplinkMac_toNat]
  cases type.ciphered <;> rfl

section
variable {count : UlCount}

/-- A message with a header type that asks for a check, behind its header. -/
theorem nasSecurityDecode_message (type : NasSecurityHeaderType) (received : Octets4)
    (body : Bytes)
    (hprotected : type.integrityProtected = true) (hservice : type.serviceRequest = false)
    (hnew : type.newSecurityContext = nasHeaderNew (first >>> 4))
    (havailable : ue.securityContextAvailable = true)
    (halgorithm : NasIntegrityAlgorithm ue.selectedIntAlgorithm)
    (hcount : count = (ue.baseCount (first >>> 4)).next sqn) :
    ∃ headroom', nasSecurityDecode ue type
      ⟨([first] ++ received.toList ++ [sqn]).reverse ++ List.replicate nasHeadroom 0, body⟩ =
      ((if type.ciphered && ue.selectedEncAlgorithm != 0 then
        nasEncrypt ue.selectedEncAlgorithm ue.knasEnc count.i32 nasSecurityBearer
          nasSecurityUplinkDirection ⟨headroom', body⟩
      else .ok ⟨headroom', body⟩) >>= fun nasbuf =>
        .ok (({ ue with ulCount := count }).checked
          (received = ue.uplinkMac count.toNat (sqn :: body)), nasbuf, .ok)) := by
  have hlen : ([first] ++ received.toList ++ [sqn]).length = 6 := by simp
  have hpush := Pkbuf.push_eq ([first] ++ received.toList ++ [sqn])
    (List.replicate nasHeadroom 0) body
  rw [hlen] at hpush
  have hpull := Pkbuf.pull_eq ([first] ++ received.toList) ([sqn] ++ body)
    (List.replicate nasHeadroom 0)
  rw [← List.append_assoc, show ([first] ++ received.toList).length = 5 by simp] at hpull
  have hroom : 8 ≤ (([first] ++ received.toList).reverse ++
      List.replicate nasHeadroom 0).length := by
    simp [nasHeadroom]
  have hselect : (type.select ue).integrityProtected = true := by
    simp [NasSecurityHeaderType.select, hprotected, halgorithm.ne_zero]
  obtain ⟨headroom', hunprotect⟩ := nasSecurityUnprotect_eq { ue with ulCount := count }
    (type.select ue) ⟨first, received, sqn⟩ sqn body halgorithm hroom hselect
  refine ⟨headroom', ?_⟩
  have hbase : (if type.newSecurityContext then { ue with ulCount := .zero } else ue) =
      { ue with ulCount := ue.baseCount (first >>> 4) } := by
    rw [MmeUe.baseCount, ← hnew]
    split <;> rfl
  have hdecode : nasSecurityDecode ue type
      ⟨([first] ++ received.toList ++ [sqn]).reverse ++ List.replicate nasHeadroom 0, body⟩ =
      (nasSecurityUnprotect { ue with ulCount := count } (type.select ue)
        ⟨first, received, sqn⟩
        ⟨([first] ++ received.toList).reverse ++ List.replicate nasHeadroom 0, sqn :: body⟩ >>=
        fun checked => .ok (checked.1, checked.2, .ok)) := by
    unfold nasSecurityDecode
    rw [if_neg (by simp [hservice]), NasSecurityHeaderType.available, if_pos havailable]
    simp only [hbase]
    have hsame : (type.select { ue with ulCount := ue.baseCount (first >>> 4) }) =
        type.select ue := rfl
    have hor : (type.select ue).ciphered = true ∨ (type.select ue).integrityProtected = true :=
      Or.inr hselect
    simp only [hsame, if_pos hor]
    rw [hpush, Fallible.assertSome_some, Fallible.ok_bind]
    change ((NasSecurityHeaderOctets.read (nasMessageOctets first received sqn body)) >>= _) = _
    rw [read_nasMessageOctets, Fallible.ok_bind, hpull, Fallible.assertSome_some,
      Fallible.ok_bind, ← hcount]
    rfl
  rw [hdecode, hunprotect]
  change ((if (type.select ue).ciphered = true then
    nasEncrypt ue.selectedEncAlgorithm ue.knasEnc count.i32 nasSecurityBearer
      nasSecurityUplinkDirection ⟨headroom', body⟩ else .ok ⟨headroom', body⟩) >>= _) >>= _ =
    (if (type.select ue).ciphered = true then
      nasEncrypt ue.selectedEncAlgorithm ue.knasEnc count.i32 nasSecurityBearer
        nasSecurityUplinkDirection ⟨headroom', body⟩ else .ok ⟨headroom', body⟩) >>= _
  generalize hciphers : (if (type.select ue).ciphered = true then
    nasEncrypt ue.selectedEncAlgorithm ue.knasEnc count.i32 nasSecurityBearer
      nasSecurityUplinkDirection ⟨headroom', body⟩ else .ok ⟨headroom', body⟩) = deciphered
  cases deciphered <;> rfl

/-- The UE after a message has been counted and checked. -/
theorem nasReceive_message (received : Octets4) (body : Bytes)
    (htype : nasProtectedHeaderType (first >>> 4) = some type)
    (havailable : ue.securityContextAvailable = true)
    (halgorithm : NasIntegrityAlgorithm ue.selectedIntAlgorithm)
    (hcount : count = (ue.baseCount (first >>> 4)).next sqn) :
    ∃ headroom', nasReceive ue (nasMessageOctets first received sqn body) =
      ((if nasHeaderCiphered (first >>> 4) && ue.selectedEncAlgorithm != 0 then
        nasEncrypt ue.selectedEncAlgorithm ue.knasEnc count.i32 nasSecurityBearer
          nasSecurityUplinkDirection ⟨headroom', body⟩
      else .ok ⟨headroom', body⟩) >>= fun nasbuf =>
        .ok (({ ue with ulCount := count }).checked
          (received = ue.uplinkMac count.toNat (sqn :: body)), nasbuf)) := by
  obtain ⟨hprotected, hservice, hciphered, hnew, -, -⟩ := nasProtectedHeaderType_some htype
  obtain ⟨headroom', hdecode⟩ := nasSecurityDecode_message type received body hprotected hservice
    hnew havailable halgorithm hcount
  refine ⟨headroom', ?_⟩
  rw [nasReceive, s1apStripSecurityHeader_message htype, Fallible.ok_bind,
    Fallible.assertSome_some, Fallible.ok_bind]
  simp only [hdecode, hciphered]
  generalize hciphers : (if (nasHeaderCiphered (first >>> 4) && ue.selectedEncAlgorithm != 0) =
    true then nasEncrypt ue.selectedEncAlgorithm ue.knasEnc count.i32 nasSecurityBearer
      nasSecurityUplinkDirection ⟨headroom', body⟩ else .ok ⟨headroom', body⟩) = deciphered
  cases deciphered <;> rfl

/-- The UE after a Service Request has been counted and checked. -/
theorem nasReceive_serviceRequest {q : UInt8} (m0 m1 : UInt8) (rest : Bytes)
    (hfirst : first >>> 4 = NasSecurityHeader.forServiceRequestMessage)
    (halgorithm : NasIntegrityAlgorithm ue.selectedIntAlgorithm)
    (hcount : count = ue.ulCount.next (ue.ulCount.estimatedSequenceNumber (q &&& 0x1f))) :
    ∃ headroom', nasReceive ue (first :: q :: m0 :: m1 :: rest) =
      .ok (({ ue with ulCount := count }).checked
        ((ue.uplinkMac count.toNat [first, q]).toList.drop 2 = [m0, m1]),
        ⟨headroom', [first, q, m0, m1]⟩) := by
  have hstrip : s1apStripSecurityHeader (first :: q :: m0 :: m1 :: rest) =
      .ok (some ({ serviceRequest := true },
        ⟨List.replicate nasHeadroom 0, first :: q :: m0 :: m1 :: rest⟩)) := by
    simp only [s1apStripSecurityHeader, hfirst, NasSecurityHeader.forServiceRequestMessage,
      NasSecurityHeader.plainNasMessage]
    rfl
  have hroom : 8 ≤ (List.replicate nasHeadroom (0 : UInt8)).length := by simp [nasHeadroom]
  obtain ⟨headroom', -, hmac⟩ := nasMacCalculate_eq halgorithm ue.knasInt count.i32
    nasSecurityBearer nasSecurityUplinkDirection (Vector.replicate 4 0)
    (List.cons_ne_nil first [q]) hroom
  refine ⟨headroom', ?_⟩
  rw [nasReceive, hstrip, Fallible.ok_bind, Fallible.assertSome_some, Fallible.ok_bind]
  simp only [nasSecurityDecode, nasSecurityDecodeServiceRequest, if_neg halgorithm.ne_zero,
    ← hcount, ite_true]
  have htrim : (Pkbuf.mk (List.replicate nasHeadroom 0) (first :: q :: m0 :: m1 :: rest)).trim 2 =
      ⟨List.replicate nasHeadroom 0, [first, q]⟩ := rfl
  rw [htrim, hmac]
  simp only [Fallible.ok_bind, ← MmeUe.uplinkMac_toNat]
  rw [Fallible.assert_of trivial, Fallible.ok_bind, ← MmeUe.checked_eq]
  rfl

theorem NasChecked.nasIntegrityAlgorithm (hchecked : NasChecked ue pdu count ok) :
    NasIntegrityAlgorithm ue.selectedIntAlgorithm := by
  cases hchecked with
  | message _ _ halgorithm _ => exact halgorithm
  | serviceRequest _ halgorithm _ => exact halgorithm

/-- A checked PDU that is processed leaves its count and the result of the check. -/
theorem nasReceive_checked {nasbuf : Pkbuf} (hchecked : NasChecked ue pdu count ok)
    (h : nasReceive ue pdu = .ok (ue', nasbuf)) :
    ue' = ({ ue with ulCount := count }).checked ok := by
  cases hchecked with
  | message htype havailable halgorithm hcount =>
    obtain ⟨type, htype⟩ := Option.isSome_iff_exists.mp htype
    obtain ⟨headroom', hreceive⟩ := nasReceive_message _ _ htype havailable halgorithm hcount
    rw [hreceive] at h
    obtain ⟨_, _, h⟩ := Fallible.bind_eq_ok.mp h
    cases h
    rfl
  | serviceRequest hfirst halgorithm hcount =>
    obtain ⟨headroom', hreceive⟩ := nasReceive_serviceRequest _ _ _ hfirst halgorithm hcount
    rw [hreceive] at h
    cases h
    rfl

end

/-! ## A genuine message is accepted -/

theorem MmeUe.uplinkMac_mod (ue : MmeUe) (c : Nat) (data : Bytes) :
    ue.uplinkMac (c % 2 ^ 24) data = ue.uplinkMac c data := by
  simp only [MmeUe.uplinkMac, Nat.mod_mod]

omit [OgsCrypt] in
/-- The MME rebuilds a count in the window. -/
theorem next_baseCount {plain : Bytes}
    (hc : (NasUplink.message first plain).Window ue.ulCount.toNat c) :
    (ue.baseCount first).next (UInt8.ofNat c) = UlCount.ofNat c := by
  simp only [NasUplink.Window] at hc
  unfold MmeUe.baseCount
  cases hnew : nasHeaderNew first with
  | true =>
    rw [hnew, if_pos rfl] at hc
    rw [if_pos rfl]
    apply UlCount.next_eq
    · exact Nat.zero_le c
    · rw [UlCount.toNat_zero]
      omega
  | false =>
    rw [hnew, if_neg Bool.false_ne_true] at hc
    rw [if_neg Bool.false_ne_true]
    exact UlCount.next_eq hc.1 hc.2

/-- A message is deciphered to what was ciphered. -/
theorem nasDecipher_eq {plain : Bytes} {ciphered : Bool}
    (halgorithm : NasCipheringAlgorithm ue.selectedEncAlgorithm) (hplain : plain ≠ []) :
    (if ciphered && ue.selectedEncAlgorithm != 0 then
      nasEncrypt ue.selectedEncAlgorithm ue.knasEnc (UlCount.ofNat c).i32 nasSecurityBearer
        nasSecurityUplinkDirection
        ⟨headroom, if ciphered then ue.uplinkCipher c plain else plain⟩
    else .ok ⟨headroom, if ciphered then ue.uplinkCipher c plain else plain⟩) =
      .ok ⟨headroom, plain⟩ := by
  cases ciphered with
  | false => simp
  | true =>
    by_cases hnull : ue.selectedEncAlgorithm = 0
    · have hsame : ue.uplinkCipher c plain = plain := by
        rw [MmeUe.uplinkCipher, hnull]
        rfl
      simp [hnull, hsame]
    · have hcipher : ue.uplinkCipher c plain ≠ [] := nasCipher_ne_nil hplain
      rw [if_pos (by simp [hnull]), if_pos rfl, nasEncrypt_eq halgorithm hcipher,
        UlCount.i32_ofNat]
      simp only [MmeUe.uplinkCipher, nasCipher_nasCipher]

omit [OgsCrypt] in
theorem and_31_of_ksi (ksi : UInt8) {q : Nat} (hq : q < 32) :
    (ksi <<< 5 ||| UInt8.ofNat q) &&& 0x1f = UInt8.ofNat q := by
  apply UInt8.toNat_inj.mp
  have hhigh : (ksi <<< 5).toNat % 32 = 0 := by
    rw [UInt8.toNat_shiftLeft, Nat.shiftLeft_eq]
    simp
  rw [UlCount.toNat_and_31, UInt8.toNat_or, Nat.or_mod_two_pow (n := 5), hhigh,
    UInt8.toNat_ofNat', Nat.zero_or]
  omega

/-- A Service Request ends in the last two octets of its code. -/
theorem pdu_serviceRequest (ue : MmeUe) (c : Nat) (ksi : UInt8) :
    ∃ m0 m1, (ue.uplinkMac c [NasSecurityHeader.forServiceRequestMessage <<< 4 ||| 0x07,
        ksi <<< 5 ||| UInt8.ofNat (c % 32)]).toList.drop 2 = [m0, m1] ∧
      NasUplink.pdu ue c (.serviceRequest ksi) =
        [NasSecurityHeader.forServiceRequestMessage <<< 4 ||| 0x07,
          ksi <<< 5 ||| UInt8.ofNat (c % 32), m0, m1] := by
  obtain ⟨_, _, m0, m1, hmac⟩ := exists_eq_octets4
    (ue.uplinkMac c [NasSecurityHeader.forServiceRequestMessage <<< 4 ||| 0x07,
      ksi <<< 5 ||| UInt8.ofNat (c % 32)])
  refine ⟨m0, m1, ?_, ?_⟩
  · rw [hmac]
    rfl
  · simp only [NasUplink.pdu, hmac]
    rfl

/-- A Service Request of the UE is accepted, with any ciphering algorithm. -/
theorem nasReceive_serviceRequest_genuine {ksi : UInt8}
    (hint : NasIntegrityAlgorithm ue.selectedIntAlgorithm)
    (hc : (NasUplink.serviceRequest ksi).Window ue.ulCount.toNat c) :
    ∃ headroom, nasReceive ue (NasUplink.pdu ue c (.serviceRequest ksi)) =
      .ok ({ ue with ulCount := UlCount.ofNat c },
        ⟨headroom, NasUplink.pdu ue c (.serviceRequest ksi)⟩) := by
  have hlow := and_31_of_ksi ksi (Nat.mod_lt c (by omega))
  have hfirst : (NasSecurityHeader.forServiceRequestMessage <<< 4 ||| 0x07) >>> 4 =
      NasSecurityHeader.forServiceRequestMessage := by decide
  have hcount : UlCount.ofNat c = ue.ulCount.next (ue.ulCount.estimatedSequenceNumber
      ((ksi <<< 5 ||| UInt8.ofNat (c % 32)) &&& 0x1f)) := by
    rw [hlow, UlCount.next_estimated_eq hc.1 hc.2]
  obtain ⟨m0, m1, hmac, hpdu⟩ := pdu_serviceRequest ue c ksi
  obtain ⟨headroom, hreceive⟩ := nasReceive_serviceRequest m0 m1 [] hfirst hint hcount
  refine ⟨headroom, ?_⟩
  rw [UlCount.toNat_ofNat, MmeUe.uplinkMac_mod, hmac] at hreceive
  rw [hpdu, hreceive]
  simp [MmeUe.checked]

omit [OgsCrypt] in
theorem NasUplink.shift_header {securityHeaderType : UInt8}
    (h : securityHeaderType = 1 ∨ securityHeaderType = 2 ∨ securityHeaderType = 3 ∨
      securityHeaderType = 4) : (securityHeaderType <<< 4 ||| 0x07) >>> 4 = securityHeaderType := by
  rcases h with rfl | rfl | rfl | rfl <;> decide

/-- The code of a message of the UE is checked under its count, and is the right one. -/
theorem NasUplink.checked (u : NasUplink) (ue : MmeUe) (c : Nat)
    (havailable : ue.securityContextAvailable = true)
    (hint : NasIntegrityAlgorithm ue.selectedIntAlgorithm)
    (hu : u.WellFormed) (hc : u.Window ue.ulCount.toNat c) :
    NasChecked ue (u.pdu ue c) (UlCount.ofNat c) true := by
  cases u with
  | message securityHeaderType plain =>
    let body := if nasHeaderCiphered securityHeaderType then ue.uplinkCipher c plain else plain
    have hfirst := NasUplink.shift_header hu.1
    have htype : (nasProtectedHeaderType ((securityHeaderType <<< 4 ||| 0x07) >>> 4)).isSome := by
      rw [hfirst]
      rcases hu.1 with rfl | rfl | rfl | rfl <;> rfl
    have hcount : UlCount.ofNat c =
        (ue.baseCount ((securityHeaderType <<< 4 ||| 0x07) >>> 4)).next (UInt8.ofNat c) := by
      rw [hfirst]
      exact (next_baseCount hc).symm
    have hmac : ue.uplinkMac c (UInt8.ofNat c :: body) =
        ue.uplinkMac (UlCount.ofNat c).toNat (UInt8.ofNat c :: body) := by
      rw [UlCount.toNat_ofNat, MmeUe.uplinkMac_mod]
    have hchecked := @NasChecked.message _ ue _ _ (ue.uplinkMac c (UInt8.ofNat c :: body)) body _
      htype havailable hint hcount
    rwa [decide_eq_true hmac] at hchecked
  | serviceRequest ksi =>
    have hlow := and_31_of_ksi ksi (Nat.mod_lt c (by omega))
    have hfirst : (NasSecurityHeader.forServiceRequestMessage <<< 4 ||| 0x07) >>> 4 =
        NasSecurityHeader.forServiceRequestMessage := by decide
    have hcount : UlCount.ofNat c = ue.ulCount.next (ue.ulCount.estimatedSequenceNumber
        ((ksi <<< 5 ||| UInt8.ofNat (c % 32)) &&& 0x1f)) := by
      rw [hlow, UlCount.next_estimated_eq hc.1 hc.2]
    obtain ⟨m0, m1, hmac, hpdu⟩ := pdu_serviceRequest ue c ksi
    have hchecked := @NasChecked.serviceRequest _ ue _ _ m0 m1 [] _ hfirst hint hcount
    rw [UlCount.toNat_ofNat, MmeUe.uplinkMac_mod, decide_eq_true hmac] at hchecked
    rwa [hpdu]

/-- Every message of the UE is accepted: its count is recovered, the mark of a failed check
is not set and the message is what remains in the buffer. -/
theorem nasReceive_genuine (u : NasUplink) (ue : MmeUe) (c : Nat)
    (havailable : ue.securityContextAvailable = true)
    (hint : NasIntegrityAlgorithm ue.selectedIntAlgorithm)
    (henc : NasCipheringAlgorithm ue.selectedEncAlgorithm)
    (hu : u.WellFormed) (hc : u.Window ue.ulCount.toNat c) :
    ∃ headroom, nasReceive ue (u.pdu ue c) =
      .ok ({ ue with ulCount := UlCount.ofNat c }, ⟨headroom, u.decoded ue c⟩) ∧
      (UlCount.ofNat c).toNat = c % 2 ^ 24 := by
  cases u with
  | message securityHeaderType plain =>
    obtain ⟨hheader, hplain⟩ := hu
    have hfirst : (securityHeaderType <<< 4 ||| 0x07) >>> 4 = securityHeaderType := by
      rcases hheader with rfl | rfl | rfl | rfl <;> decide
    have htype : (nasProtectedHeaderType securityHeaderType).isSome := by
      rcases hheader with rfl | rfl | rfl | rfl <;> rfl
    obtain ⟨type, htype⟩ := Option.isSome_iff_exists.mp htype
    have hcount := next_baseCount hc
    rw [← hfirst] at htype hcount
    obtain ⟨headroom, hreceive⟩ := nasReceive_message
      (ue.uplinkMac c (UInt8.ofNat c ::
        if nasHeaderCiphered securityHeaderType then ue.uplinkCipher c plain else plain))
      (if nasHeaderCiphered securityHeaderType then ue.uplinkCipher c plain else plain)
      htype havailable hint hcount.symm
    refine ⟨headroom, ?_, UlCount.toNat_ofNat c⟩
    rw [hfirst, nasDecipher_eq henc hplain, UlCount.toNat_ofNat, MmeUe.uplinkMac_mod] at hreceive
    simp only [NasUplink.pdu, NasUplink.decoded, hreceive]
    simp [MmeUe.checked]
  | serviceRequest ksi =>
    obtain ⟨headroom, hreceive⟩ := nasReceive_serviceRequest_genuine hint hc
    exact ⟨headroom, hreceive, UlCount.toNat_ofNat c⟩

end

/-- The reference functions with EIA2 and EEA2, across an overflow of the sequence number. -/
theorem nasReceive_genuine_ciphered :
    let _ := OgsCrypt.reference
    let ue : MmeUe := { MmeUe.zero with
      securityContextAvailable := true
      selectedIntAlgorithm := 2
      selectedEncAlgorithm := 2
      ulCount := ⟨0, 250⟩ }
    ∃ headroom, nasReceive ue (NasUplink.pdu ue 260 (.message 2 [0x07, 0x5e])) =
      .ok ({ ue with ulCount := ⟨1, 4⟩ }, ⟨headroom, [0x07, 0x5e]⟩) ∧
      (UlCount.ofNat 260).toNat = 260 % 2 ^ 24 := by
  intro _ ue
  exact nasReceive_genuine (.message 2 [0x07, 0x5e]) ue 260 rfl (Or.inr (Or.inl rfl))
    (Or.inr (Or.inr (Or.inl rfl))) ⟨Or.inr (Or.inl rfl), by decide⟩ (by decide)

end NextEpc

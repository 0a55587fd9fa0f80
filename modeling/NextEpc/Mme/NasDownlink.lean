import NextEpc.Lib.Trace
import NextEpc.Mme.NasUplink

/-!
# Protected downlink messages

Every protected message takes one count. A header with a new security context starts the
counts again, so that the n-th message of a context has count n. With both algorithms null
nothing is sent, although the call succeeds.
-/

namespace NextEpc
section
variable [OgsCrypt]

/-! ## One message -/

/-- The UE when a message is encoded: a new security context starts the counts again. -/
def MmeUe.encoding (ue : MmeUe) (message : NasMessage) : MmeUe :=
  if nasHeaderNew message.securityHeaderType then { ue with dlCount := 0, ulCount := .zero }
  else ue

/-- The count that a message is sent with. -/
def MmeUe.encodeCount (ue : MmeUe) (message : NasMessage) : UInt32 :=
  (ue.encoding message).dlCount

/-- Something is ciphered or authenticated, or the message is not to be protected at all. -/
def MmeUe.Encodes (ue : MmeUe) (message : NasMessage) : Prop :=
  ∀ type, nasProtectedHeaderType message.securityHeaderType = some type →
    (type.ciphered = true ∧ ue.selectedEncAlgorithm ≠ 0) ∨ ue.selectedIntAlgorithm ≠ 0

/-- The message under a ciphering algorithm, if its header asks for one. -/
def nasDownlinkBody (ue : MmeUe) (message : NasMessage) (count : UInt32) : Bytes :=
  if nasHeaderCiphered message.securityHeaderType then
    nasCipher ue.selectedEncAlgorithm ue.knasEnc count nasSecurityBearer
      nasSecurityDownlinkDirection message.plain
  else message.plain

/-- The sequence octet is the count modulo 256; the key stream and the code are those of the
count. -/
def nasDownlinkOctets (ue : MmeUe) (message : NasMessage) (count : UInt32) : Bytes :=
  let sequenceNumber := UInt8.ofNat (count.toNat % 256)
  let body := nasDownlinkBody ue message count
  nasMessageOctets (message.securityHeaderType <<< 4 ||| message.protocolDiscriminator &&& 0x0f)
    (nasMac ue.selectedIntAlgorithm ue.knasInt count nasSecurityBearer
      nasSecurityDownlinkDirection (sequenceNumber :: body)) sequenceNumber body

variable {ue ue' : MmeUe} {message : NasMessage} {type : NasSecurityHeaderType}
  {pkbuf : Option Pkbuf} {rv : Rv} {new nasbuf nasbuf' : Pkbuf} {algorithm : UInt8}
  {knasInt knasEnc : Octets16} {count : UInt32} {bearer direction : UInt8} {mac mac' : Octets4}

theorem nasEncrypt_ok (h : nasEncrypt algorithm knasEnc count bearer direction nasbuf =
    .ok nasbuf') : nasbuf' = { nasbuf with
      data := nasCipher algorithm knasEnc count bearer direction nasbuf.data } := by
  obtain ⟨_, _, h⟩ := Fallible.bind_eq_ok.mp h
  obtain ⟨stream, hstream, h⟩ := Fallible.bind_eq_ok.mp h
  unfold nasCipher
  rw [hstream]
  cases stream with
  | none =>
    cases h
    rfl
  | some stream =>
    cases h
    rfl

theorem nasIntegrityAlgorithm_of_ok
    (h : nasMacCalculate algorithm knasInt count bearer direction nasbuf mac =
      .ok (nasbuf', mac')) (hne : algorithm ≠ 0) : NasIntegrityAlgorithm algorithm := by
  obtain ⟨_, _, h⟩ := Fallible.bind_eq_ok.mp h
  split at h
  · exact Or.inl rfl
  · exact Or.inr (Or.inl rfl)
  · exact Or.inr (Or.inr rfl)
  · exact absurd rfl hne
  · cases h

/-- The five operations on the buffer in turn. -/
theorem nasSecurityProtect_eq : nasSecurityProtect ue type message =
    ((if type.ciphered then
      nasEncrypt ue.selectedEncAlgorithm ue.knasEnc ue.dlCount nasSecurityBearer
        nasSecurityDownlinkDirection (Pkbuf.alloc nasHeadroom message.plain)
    else .ok (Pkbuf.alloc nasHeadroom message.plain)) >>= fun encrypted =>
    Fallible.assertSome .nasSecurityEncode (encrypted.push 1) >>= fun pushed =>
    (if type.integrityProtected then
      nasMacCalculate ue.selectedIntAlgorithm ue.knasInt ue.dlCount nasSecurityBearer
        nasSecurityDownlinkDirection (pushed.write [UInt8.ofNat ue.dlCount.toNat])
        (Vector.replicate 4 0)
    else .ok (pushed.write [UInt8.ofNat ue.dlCount.toNat], Vector.replicate 4 0)) >>=
      fun checked =>
    Fallible.assertSome .nasSecurityEncode (checked.1.push 5) >>= fun sent =>
    .ok ({ ue with
        dlCount := (ue.dlCount + 1) &&& 0xffffff
        securityContextAvailable := true },
      sent.write ([message.securityHeaderType <<< 4 ||| message.protocolDiscriminator &&& 0x0f] ++
        checked.2.toList ++ [UInt8.ofNat ue.dlCount.toNat]))) := by
  unfold nasSecurityProtect
  cases type.ciphered
  · cases type.integrityProtected <;> rfl
  · cases type.integrityProtected <;> rfl

/-- What is made of a message with something to protect, and the UE after it. -/
theorem nasSecurityProtect_ok (htype : nasProtectedHeaderType message.securityHeaderType = some type)
    (h : nasSecurityProtect ue (type.select ue) message = .ok (ue', new)) :
    new.data = nasDownlinkOctets ue message ue.dlCount ∧
      ue' = { ue with
        dlCount := (ue.dlCount + 1) &&& 0xffffff
        securityContextAvailable := true } := by
  obtain ⟨hprotected, -, hciphered, -, -, -⟩ := nasProtectedHeaderType_some htype
  rw [nasSecurityProtect_eq] at h
  obtain ⟨encrypted, hencrypt, h⟩ := Fallible.bind_eq_ok.mp h
  obtain ⟨pushed, hpush, h⟩ := Fallible.bind_eq_ok.mp h
  obtain ⟨⟨checked, mac⟩, hmac, h⟩ := Fallible.bind_eq_ok.mp h
  obtain ⟨sent, hsent, h⟩ := Fallible.bind_eq_ok.mp h
  cases h
  refine ⟨?_, rfl⟩
  have hbody : encrypted = ⟨List.replicate nasHeadroom 0,
      nasDownlinkBody ue message ue.dlCount⟩ := by
    have hselected : (type.select ue).ciphered =
        (nasHeaderCiphered message.securityHeaderType && ue.selectedEncAlgorithm != 0) := by
      rw [NasSecurityHeaderType.select, hciphered]
    rw [hselected] at hencrypt
    unfold nasDownlinkBody
    by_cases hnull : ue.selectedEncAlgorithm = 0
    · rw [if_neg (by simp [hnull])] at hencrypt
      cases hencrypt
      have hsame : ∀ data, nasCipher ue.selectedEncAlgorithm ue.knasEnc ue.dlCount
          nasSecurityBearer nasSecurityDownlinkDirection data = data := by
        intro data
        rw [hnull]
        rfl
      rw [hsame, ite_self]
      rfl
    · cases hheader : nasHeaderCiphered message.securityHeaderType with
      | false =>
        rw [hheader] at hencrypt
        cases hencrypt
        rfl
      | true =>
        rw [if_pos (by simp [hheader, hnull])] at hencrypt
        rw [nasEncrypt_ok hencrypt]
        rfl
  have hwritten : pushed.write [UInt8.ofNat ue.dlCount.toNat] =
      ⟨List.replicate 15 0,
        UInt8.ofNat ue.dlCount.toNat :: nasDownlinkBody ue message ue.dlCount⟩ := by
    rw [hbody] at hpush
    cases Fallible.assertSome_eq_ok.mp hpush
    rfl
  have hsequence : UInt8.ofNat (ue.dlCount.toNat % 256) = UInt8.ofNat ue.dlCount.toNat := by
    apply UInt8.toNat_inj.mp
    simp
  rw [hwritten] at hmac
  have hchecked : checked.data =
      UInt8.ofNat ue.dlCount.toNat :: nasDownlinkBody ue message ue.dlCount ∧
      mac = nasMac ue.selectedIntAlgorithm ue.knasInt ue.dlCount nasSecurityBearer
        nasSecurityDownlinkDirection
        (UInt8.ofNat ue.dlCount.toNat :: nasDownlinkBody ue message ue.dlCount) := by
    by_cases hnull : ue.selectedIntAlgorithm = 0
    · rw [if_neg (by simp [NasSecurityHeaderType.select, hnull])] at hmac
      cases hmac
      rw [hnull]
      exact ⟨rfl, rfl⟩
    · rw [if_pos (by simp [NasSecurityHeaderType.select, hnull, hprotected])] at hmac
      have hroom : 8 ≤ (List.replicate 15 (0 : UInt8)).length := by simp
      obtain ⟨headroom, -, hcalculate⟩ := nasMacCalculate_eq
        (nasIntegrityAlgorithm_of_ok hmac hnull) ue.knasInt ue.dlCount nasSecurityBearer
        nasSecurityDownlinkDirection (Vector.replicate 4 0)
        (List.cons_ne_nil (UInt8.ofNat ue.dlCount.toNat) (nasDownlinkBody ue message ue.dlCount))
        hroom
      rw [hcalculate] at hmac
      cases hmac
      exact ⟨rfl, rfl⟩
  have hdrop := Pkbuf.drop_data_of_push (Fallible.assertSome_eq_ok.mp hsent)
  have hlast : sent.data.drop 6 = nasDownlinkBody ue message ue.dlCount := by
    rw [← List.drop_drop (i := 1) (j := 5), hdrop, hchecked.1]
    rfl
  simp only [Pkbuf.write, nasDownlinkOctets, nasMessageOctets, hsequence, ← hchecked.2]
  rw [show ([message.securityHeaderType <<< 4 ||| message.protocolDiscriminator &&& 0x0f] ++
    mac.toList ++ [UInt8.ofNat ue.dlCount.toNat]).length = 6 by simp, hlast]

omit [OgsCrypt] in
/-- The context that is started keeps keys and algorithms. -/
theorem encoding_algorithms (ue : MmeUe) (message : NasMessage) :
    (ue.encoding message).selectedIntAlgorithm = ue.selectedIntAlgorithm ∧
    (ue.encoding message).selectedEncAlgorithm = ue.selectedEncAlgorithm ∧
    (ue.encoding message).knasInt = ue.knasInt ∧ (ue.encoding message).knasEnc = ue.knasEnc := by
  unfold MmeUe.encoding
  split <;> exact ⟨rfl, rfl, rfl, rfl⟩

theorem nasDownlinkOctets_encoding :
    nasDownlinkOctets (ue.encoding message) message = nasDownlinkOctets ue message := by
  obtain ⟨hint, henc, hknasInt, hknasEnc⟩ := encoding_algorithms ue message
  funext count
  simp only [nasDownlinkOctets, nasDownlinkBody, hint, henc, hknasInt, hknasEnc]

omit [OgsCrypt] in
theorem encodes_iff (htype : nasProtectedHeaderType message.securityHeaderType = some type) :
    ue.Encodes message ↔ (type.select (ue.encoding message)).ciphered = true ∨
      (type.select (ue.encoding message)).integrityProtected = true := by
  obtain ⟨hint, henc, -, -⟩ := encoding_algorithms ue message
  obtain ⟨hprotected, -, -, -, -, -⟩ := nasProtectedHeaderType_some htype
  simp [MmeUe.Encodes, htype, NasSecurityHeaderType.select, hint, henc, hprotected]

/-- The call for a header type of protected messages. -/
theorem nasSecurityEncode_eq
    (htype : nasProtectedHeaderType message.securityHeaderType = some type) :
    nasSecurityEncode ue message =
      if (type.select (ue.encoding message)).ciphered = true ∨
        (type.select (ue.encoding message)).integrityProtected = true then
        nasSecurityProtect (ue.encoding message) (type.select (ue.encoding message)) message >>=
          fun r => .ok (r.1, some r.2, .ok)
      else .ok (ue.encoding message, none, .ok) := by
  obtain ⟨-, -, -, hnew, hplain, -⟩ := nasProtectedHeaderType_some htype
  have hencoding : (if type.newSecurityContext = true then
      { ue with dlCount := 0, ulCount := .zero } else ue) = ue.encoding message := by
    rw [hnew]
    rfl
  simp only [nasSecurityEncode, if_neg hplain, htype, hencoding]

/-- A message with something to protect takes one count. -/
theorem nasSecurityEncode_protected
    (htype : nasProtectedHeaderType message.securityHeaderType = some type)
    (hencodes : ue.Encodes message)
    (h : nasSecurityEncode ue message = .ok (ue', pkbuf, rv)) :
    ue'.dlCount = (ue.encodeCount message + 1) &&& 0xffffff ∧
      ∃ new, pkbuf = some new ∧
        new.data = nasDownlinkOctets ue message (ue.encodeCount message) := by
  rw [nasSecurityEncode_eq htype, if_pos ((encodes_iff htype).mp hencodes)] at h
  obtain ⟨⟨after, new⟩, hprotect, h⟩ := Fallible.bind_eq_ok.mp h
  cases h
  obtain ⟨hdata, rfl⟩ := nasSecurityProtect_ok htype hprotect
  refine ⟨rfl, new, rfl, ?_⟩
  rw [hdata, nasDownlinkOctets_encoding, MmeUe.encodeCount]

/-- A message with nothing to protect gives no buffer. -/
theorem nasSecurityEncode_null
    (htype : nasProtectedHeaderType message.securityHeaderType = some type)
    (hnull : ¬ue.Encodes message)
    (h : nasSecurityEncode ue message = .ok (ue', pkbuf, rv)) :
    rv = .ok ∧ pkbuf = none ∧ ue'.dlCount = ue.encodeCount message := by
  rw [nasSecurityEncode_eq htype, if_neg fun hselect => hnull ((encodes_iff htype).mpr hselect)]
    at h
  cases h
  exact ⟨rfl, rfl, rfl⟩

/-- A message with another header type leaves the UE as it is. -/
theorem nasSecurityEncode_other (htype : nasProtectedHeaderType message.securityHeaderType = none)
    (h : nasSecurityEncode ue message = .ok (ue', pkbuf, rv)) :
    ue' = ue ∧ (rv = .ok → pkbuf.isSome = true) := by
  unfold nasSecurityEncode at h
  by_cases hplain : message.securityHeaderType = NasSecurityHeader.plainNasMessage
  · rw [if_pos hplain] at h
    cases h
    exact ⟨rfl, fun _ => rfl⟩
  · rw [if_neg hplain, htype] at h
    cases h
    exact ⟨rfl, fun hok => by cases hok⟩

/-! ## Runs -/

/-- A protected PDU: the UE and the message it was made from, and its count. -/
structure NasSent where
  ue : MmeUe
  message : NasMessage
  count : UInt32
  pdu : Bytes

/-- A call of `nas_security_encode` and what it returned. -/
structure NasEncodeCall where
  ue : MmeUe
  message : NasMessage
  pkbuf : Option Pkbuf
  rv : Rv

/-- A UE and the protected PDUs since the last header with a new security context, newest
first. -/
structure NasDownlink where
  ue : MmeUe
  newContext : Bool
  sent : List NasSent

/-- The PDU of a call, if one is protected. -/
def NasEncodeCall.protected? (call : NasEncodeCall) : List NasSent :=
  match nasProtectedHeaderType call.message.securityHeaderType, call.pkbuf with
  | some _, some new =>
    [⟨call.ue, call.message, call.ue.encodeCount call.message, new.data⟩]
  | _, _ => []

/-- A message is encoded, or something else happens that leaves `dl_count` as it is. -/
inductive NasDownlinkStep : NasDownlink → Option NasEncodeCall → NasDownlink → Prop
  | encode {s : NasDownlink} {call : NasEncodeCall} {ue' : MmeUe} :
    call.ue = s.ue →
    nasSecurityEncode s.ue call.message = .ok (ue', call.pkbuf, call.rv) →
    NasDownlinkStep s (some call)
      ⟨ue', s.newContext || nasHeaderNew call.message.securityHeaderType,
        call.protected? ++
          if nasHeaderNew call.message.securityHeaderType then [] else s.sent⟩
  | other {s : NasDownlink} {ue' : MmeUe} :
    ue'.dlCount = s.ue.dlCount → NasDownlinkStep s none { s with ue := ue' }

/-- The counts since the last new security context are consecutive from 0 on, and each PDU
is made with its count. -/
structure NasDownlink.Protected (s : NasDownlink) : Prop where
  counts : s.newContext = true → s.sent.map NasSent.count =
    (List.range s.sent.length).reverse.map fun n => UInt32.ofNat (n % 2 ^ 24)
  distinct : s.newContext = true → s.sent.length ≤ 2 ^ 24 → (s.sent.map NasSent.count).Nodup
  built : ∀ e ∈ s.sent, e.pdu = nasDownlinkOctets e.ue e.message e.count

/-- The call succeeds only with a buffer. -/
def NasEncodeCall.SetsPkbuf (call : NasEncodeCall) : Prop :=
  call.rv = .ok → call.pkbuf.isSome = true

/-- The stored count is the one of the next PDU. -/
structure NasDownlink.Inv (s : NasDownlink) : Prop where
  next : s.newContext = true → s.ue.dlCount = UInt32.ofNat (s.sent.length % 2 ^ 24)
  counts : s.newContext = true → s.sent.map NasSent.count =
    (List.range s.sent.length).reverse.map fun n => UInt32.ofNat (n % 2 ^ 24)
  built : ∀ e ∈ s.sent, e.pdu = nasDownlinkOctets e.ue e.message e.count

omit [OgsCrypt] in
theorem dlCount_succ (n : Nat) :
    (UInt32.ofNat (n % 2 ^ 24) + 1) &&& 0xffffff = UInt32.ofNat ((n + 1) % 2 ^ 24) := by
  apply UInt32.toNat_inj.mp
  rw [UInt32.toNat_and, UInt32.toNat_add, UInt32.toNat_ofNat', UInt32.toNat_ofNat']
  rw [show (0xffffff : UInt32).toNat = 2 ^ 24 - 1 from rfl, Nat.and_two_pow_sub_one_eq_mod]
  simp only [UInt32.toNat_one]
  omega

omit [OgsCrypt] in
/-- Fewer than 2^24 consecutive counts are distinct. -/
theorem nodup_counts {l : Nat} (hl : l ≤ 2 ^ 24) :
    ((List.range l).reverse.map fun n => UInt32.ofNat (n % 2 ^ 24)).Nodup := by
  apply List.Nodup.map_on
  · intro x hx y hy heq
    have hx := List.mem_range.mp (List.mem_reverse.mp hx)
    have hy := List.mem_range.mp (List.mem_reverse.mp hy)
    have hnat := congrArg UInt32.toNat heq
    simp only [UInt32.toNat_ofNat'] at hnat
    omega
  · exact List.nodup_reverse.mpr List.nodup_range

theorem NasDownlink.Inv.isProtected {s : NasDownlink} (hs : s.Inv) : s.Protected := by
  refine ⟨hs.counts, fun hnew hl => ?_, hs.built⟩
  rw [hs.counts hnew]
  exact nodup_counts hl

theorem NasDownlink.Inv.other {s : NasDownlink} (hs : s.Inv)
    (hcount : ue'.dlCount = s.ue.dlCount) : NasDownlink.Inv { s with ue := ue' } := by
  refine ⟨fun hnew => ?_, hs.counts, hs.built⟩
  rw [hcount]
  exact hs.next hnew

/-- A header with a new security context starts an empty list with count 0. -/
theorem NasDownlink.Inv.encoding {s : NasDownlink} (hs : s.Inv) (message : NasMessage) :
    NasDownlink.Inv ⟨s.ue.encoding message,
      s.newContext || nasHeaderNew message.securityHeaderType,
      if nasHeaderNew message.securityHeaderType then [] else s.sent⟩ := by
  unfold MmeUe.encoding
  cases nasHeaderNew message.securityHeaderType with
  | false =>
    rw [Bool.or_false, if_neg Bool.false_ne_true, if_neg Bool.false_ne_true]
    exact hs
  | true =>
    rw [if_pos rfl, if_pos rfl]
    exact ⟨fun _ => rfl, fun _ => rfl, fun _ h => absurd h List.not_mem_nil⟩

/-- A PDU with the stored count is the next one. -/
theorem NasDownlink.Inv.send {s : NasDownlink} (hs : s.Inv) {e : NasSent}
    (hcount : e.count = s.ue.dlCount)
    (hpdu : e.pdu = nasDownlinkOctets e.ue e.message e.count)
    (hnext : ue'.dlCount = (s.ue.dlCount + 1) &&& 0xffffff) :
    NasDownlink.Inv ⟨ue', s.newContext, e :: s.sent⟩ := by
  refine ⟨fun hnew => ?_, fun hnew => ?_, ?_⟩
  · rw [hnext, hs.next hnew, dlCount_succ]
    rfl
  · rw [List.length_cons, List.range_succ, List.reverse_append, List.map_cons, hcount,
      hs.next hnew, hs.counts hnew]
    rfl
  · intro e' he'
    rcases List.mem_cons.mp he' with rfl | he'
    · exact hpdu
    · exact hs.built e' he'

/-- What a call adds to the PDUs of its context. -/
theorem NasDownlink.Inv.encode {s : NasDownlink} {call : NasEncodeCall} (hs : s.Inv)
    (hcall : call.ue = s.ue)
    (h : nasSecurityEncode s.ue call.message = .ok (ue', call.pkbuf, call.rv)) :
    NasDownlink.Inv ⟨ue', s.newContext || nasHeaderNew call.message.securityHeaderType,
      call.protected? ++
        if nasHeaderNew call.message.securityHeaderType then [] else s.sent⟩ := by
  have hbegin := hs.encoding call.message
  unfold NasEncodeCall.protected?
  cases htype : nasProtectedHeaderType call.message.securityHeaderType with
  | none =>
    obtain ⟨rfl, -⟩ := nasSecurityEncode_other htype h
    have hnew : nasHeaderNew call.message.securityHeaderType = false := by
      rw [Bool.eq_false_iff]
      intro hnew
      unfold nasProtectedHeaderType at htype
      split at htype <;> simp_all [nasHeaderNew]
    simpa [hnew, MmeUe.encoding] using hbegin
  | some type =>
    by_cases hencodes : s.ue.Encodes call.message
    · obtain ⟨hnext, new, hsome, hdata⟩ := nasSecurityEncode_protected htype hencodes h
      rw [hsome]
      apply hbegin.send
      · rw [hcall]
        rfl
      · rw [hcall]
        exact hdata
      · exact hnext
    · obtain ⟨-, hnone, hnext⟩ := nasSecurityEncode_null htype hencodes h
      rw [hnone]
      exact hbegin.other hnext

/-- A step keeps the invariant. -/
theorem NasDownlink.Inv.step {s t : NasDownlink} {label : Option NasEncodeCall} (hs : s.Inv)
    (hstep : NasDownlinkStep s label t) : t.Inv := by
  cases hstep with
  | encode hcall h => exact hs.encode hcall h
  | other hcount => exact hs.other hcount

/-- A call succeeds without a buffer exactly if it has nothing to protect. -/
theorem setsPkbuf_iff {s t : NasDownlink} {call : NasEncodeCall}
    (hstep : NasDownlinkStep s (some call) t) :
    call.SetsPkbuf ↔ call.ue.Encodes call.message := by
  cases hstep with
  | encode hcall h =>
    rw [hcall]
    cases htype : nasProtectedHeaderType call.message.securityHeaderType with
    | none =>
      have hother := nasSecurityEncode_other htype h
      refine ⟨fun _ type hsome => ?_, fun _ => hother.2⟩
      rw [htype] at hsome
      cases hsome
    | some type =>
      constructor
      · intro hsets
        by_contra hnull
        obtain ⟨hrv, hnone, -⟩ := nasSecurityEncode_null htype hnull h
        have hsome := hsets hrv
        rw [hnone] at hsome
        cases hsome
      · intro hencodes _
        obtain ⟨-, new, hsome, -⟩ := nasSecurityEncode_protected htype hencodes h
        rw [hsome]
        rfl

/-- Over every run the counts are consecutive and each PDU is made with its count; every
successful call sets the buffer exactly if each one has something to protect. -/
theorem nasDownlink_run_iff (ue : MmeUe) (tr : List (Option NasEncodeCall × NasDownlink))
    (htrace : Lts.Trace NasDownlinkStep ⟨ue, false, []⟩ tr) :
    (∀ p ∈ tr, p.2.Protected ∧ ∀ call ∈ p.1, call.SetsPkbuf) ↔
      ∀ p ∈ tr, ∀ call ∈ p.1, call.ue.Encodes call.message := by
  have hinv : ∀ p ∈ tr, ∃ s, NasDownlink.Inv s ∧ NasDownlinkStep s p.1 p.2 ∧ p.2.Inv :=
    htrace.invariant_of (Q := fun _ => True) (fun s label t hs hstep _ => hs.step hstep)
      (fun _ _ => trivial)
      ⟨fun h => absurd h Bool.false_ne_true, fun _ => rfl, fun _ h => absurd h List.not_mem_nil⟩
  constructor
  · intro h p hp call hcall
    obtain ⟨s, -, hstep, -⟩ := hinv p hp
    rw [hcall] at hstep
    exact (setsPkbuf_iff hstep).mp ((h p hp).2 call hcall)
  · intro h p hp
    obtain ⟨s, -, hstep, hinv⟩ := hinv p hp
    refine ⟨hinv.isProtected, fun call hcall => ?_⟩
    rw [hcall] at hstep
    exact (setsPkbuf_iff hstep).mpr (h p hp call hcall)

end

/-- A UE with EIA1 and EEA0. -/
def ueWithEia1 : MmeUe := { MmeUe.zero with selectedIntAlgorithm := 1 }

/-- A Security Mode Command and a message after it. -/
theorem nasDownlink_run_two :
    let _ := OgsCrypt.reference
    ∃ tr : List (Option NasEncodeCall × NasDownlink), tr.length = 2 ∧
      ∀ p ∈ tr, p.2.Protected ∧ ∀ call ∈ p.1, call.SetsPkbuf := by
  intro _
  have hencodes : ∀ (ue : MmeUe) (message : NasMessage), ue.selectedIntAlgorithm = 1 →
      ue.Encodes message := by
    intro ue message halgorithm type _
    right
    rw [halgorithm]
    decide
  have hfirst : ∃ pkbuf, nasSecurityEncode ueWithEia1 ⟨3, 7, [0x07, 0x5d]⟩ =
      .ok ({ ueWithEia1 with dlCount := 1, securityContextAvailable := true }, pkbuf, .ok) :=
    ⟨_, rfl⟩
  obtain ⟨first, hfirst⟩ := hfirst
  have hsecond : ∃ pkbuf, nasSecurityEncode
      { ueWithEia1 with dlCount := 1, securityContextAvailable := true } ⟨2, 7, [0x07, 0x42]⟩ =
      .ok ({ ueWithEia1 with dlCount := 2, securityContextAvailable := true }, pkbuf, .ok) :=
    ⟨_, rfl⟩
  obtain ⟨second, hsecond⟩ := hsecond
  have hfirst : NasDownlinkStep ⟨ueWithEia1, false, []⟩
      (some ⟨ueWithEia1, ⟨3, 7, [0x07, 0x5d]⟩, first, .ok⟩) _ := .encode rfl hfirst
  have hsecond : ∀ newContext sent, ∃ t, NasDownlinkStep
      ⟨{ ueWithEia1 with dlCount := 1, securityContextAvailable := true }, newContext, sent⟩
      (some ⟨{ ueWithEia1 with dlCount := 1, securityContextAvailable := true },
        ⟨2, 7, [0x07, 0x42]⟩, second, .ok⟩) t := fun _ _ => ⟨_, .encode rfl hsecond⟩
  obtain ⟨t, hsecond⟩ := hsecond _ _
  refine ⟨_, rfl, (nasDownlink_run_iff ueWithEia1 _
    (.cons hfirst (.cons hsecond (.nil _)))).mpr ?_⟩
  intro p hp call hcall
  apply hencodes
  rcases List.mem_cons.mp hp with rfl | hp
  · cases hcall
    rfl
  · cases List.mem_singleton.mp hp
    cases hcall
    rfl

/-- A Detach Accept for a UE without algorithms: the call succeeds and sets no buffer. -/
theorem nasDownlink_null :
    let _ := OgsCrypt.reference
    ¬∀ (ue : MmeUe) (tr : List (Option NasEncodeCall × NasDownlink)),
      Lts.Trace NasDownlinkStep ⟨ue, false, []⟩ tr →
      ∀ p ∈ tr, p.2.Protected ∧ ∀ call ∈ p.1, call.SetsPkbuf := by
  intro _ hclaim
  have hstep : NasDownlinkStep ⟨MmeUe.zero, false, []⟩
      (some ⟨MmeUe.zero, ⟨2, 7, [0x07, 0x46]⟩, none, .ok⟩) ⟨MmeUe.zero, false, []⟩ :=
    .encode rfl rfl
  have hsets := (hclaim MmeUe.zero _ (.cons hstep (.nil _)) _ List.mem_cons_self).2 _ rfl rfl
  cases hsets

end NextEpc

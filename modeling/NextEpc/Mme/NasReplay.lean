import NextEpc.Lib.Trace
import NextEpc.Mme.NasUplink

/-!
# Failed checks and repeated messages

`nas_security_decode` stores the rebuilt count before it compares the codes, and marks the
UE when they differ; the mark stays. The count of the next message is rebuilt from the
stored one, which the message may have as well.
-/

namespace NextEpc
section
variable [OgsCrypt]
variable {ue ue' : MmeUe} {pdu : Bytes} {count : UlCount} {ok : Bool} {nasbuf : Pkbuf}

/-! ## A message that fails the check -/

/-- Counts, keys, algorithms and key set identifier are the same. -/
structure MmeUe.SameSecurity (ue' ue : MmeUe) : Prop where
  ulCount : ue'.ulCount = ue.ulCount
  dlCount : ue'.dlCount = ue.dlCount
  kasme : ue'.kasme = ue.kasme
  knasInt : ue'.knasInt = ue.knasInt
  knasEnc : ue'.knasEnc = ue.knasEnc
  kenb : ue'.kenb = ue.kenb
  selectedIntAlgorithm : ue'.selectedIntAlgorithm = ue.selectedIntAlgorithm
  selectedEncAlgorithm : ue'.selectedEncAlgorithm = ue.selectedEncAlgorithm
  ksi : ue'.nasEps.ksi = ue.nasEps.ksi

/-- Each genuine PDU that may come next is processed in the same way. -/
def MmeUe.SameForGenuine (ue' ue : MmeUe) : Prop :=
  ∀ (u : NasUplink) (c : Nat), u.WellFormed → u.Window ue.ulCount.toNat c →
    nasReceive ue' (u.pdu ue c) = nasReceive ue (u.pdu ue c)

/-- The sequence number of a PDU stands for the stored count. -/
def MmeUe.RepeatsCount (ue : MmeUe) : Bytes → Prop
  | first :: rest =>
    if first >>> 4 = NasSecurityHeader.forServiceRequestMessage then
      rest[0]?.map (· &&& 0x1f) = some (ue.ulCount.sqn &&& 0x1f)
    else
      rest[4]? = some ue.ulCount.sqn ∧
        (nasHeaderNew (first >>> 4) = true → ue.ulCount.overflow = 0)
  | [] => False

omit [OgsCrypt] in
theorem baseCount_next_eq_iff {first sequenceNumber : UInt8} :
    (ue.baseCount first).next sequenceNumber = ue.ulCount ↔
      sequenceNumber = ue.ulCount.sqn ∧
        (nasHeaderNew first = true → ue.ulCount.overflow = 0) := by
  unfold MmeUe.baseCount
  cases nasHeaderNew first with
  | false => simp [UlCount.next_eq_self_iff]
  | true =>
    have hzero : UlCount.zero.next sequenceNumber = ⟨0, sequenceNumber⟩ := by
      simp [UlCount.next, UlCount.zero]
    rw [if_pos rfl, hzero]
    constructor
    · intro h
      rw [← h]
      exact ⟨rfl, fun _ => rfl⟩
    · rintro ⟨hsqn, hover⟩
      rw [hsqn, ← hover rfl]

omit [OgsCrypt] in
theorem nasMessageOctets_eq_cons {first sequenceNumber : UInt8} {mac : Octets4} {body : Bytes} :
    nasMessageOctets first mac sequenceNumber body =
      first :: (mac.toList ++ [sequenceNumber] ++ body) := by
  simp [nasMessageOctets]

omit [OgsCrypt] in
theorem getElem_nasMessageOctets {sequenceNumber : UInt8} {mac : Octets4} {body : Bytes} :
    (mac.toList ++ [sequenceNumber] ++ body)[4]? = some sequenceNumber := by
  rw [List.append_assoc, List.getElem?_append_right (by simp)]
  simp

theorem NasChecked.count_eq_iff (hchecked : NasChecked ue pdu count ok) :
    count = ue.ulCount ↔ ue.RepeatsCount pdu := by
  cases hchecked with
  | @message first sequenceNumber mac body _ htype _ _ hcount =>
    obtain ⟨type, htype⟩ := Option.isSome_iff_exists.mp htype
    obtain ⟨-, -, -, -, -, hservice⟩ := nasProtectedHeaderType_some htype
    rw [hcount, baseCount_next_eq_iff, nasMessageOctets_eq_cons, MmeUe.RepeatsCount,
      if_neg hservice, getElem_nasMessageOctets, Option.some_inj]
  | @serviceRequest first q m0 m1 rest _ hfirst _ hcount =>
    rw [hcount, UlCount.next_eq_self_iff, UlCount.estimatedSequenceNumber_eq_iff]
    · rw [MmeUe.RepeatsCount, if_pos hfirst]
      simp
    · rw [UlCount.toNat_and_31]
      omega

/-- A failed check is without consequence exactly for a PDU that repeats the stored count
and a UE that is marked already. -/
theorem nasReceive_failed_iff (hchecked : NasChecked ue pdu count false)
    (h : nasReceive ue pdu = .ok (ue', nasbuf)) :
    (ue'.SameSecurity ue ∧ ue'.SameForGenuine ue) ↔
      ue.RepeatsCount pdu ∧ ue.macFailed = true := by
  have hue' := nasReceive_checked hchecked h
  constructor
  · rintro ⟨hsame, hgenuine⟩
    have hcount : count = ue.ulCount := by
      rw [← hsame.ulCount, hue']
      rfl
    refine ⟨hchecked.count_eq_iff.mp hcount, ?_⟩
    -- a Service Request with the stored count is genuine, and leaves the mark as it is
    have hwindow : (NasUplink.serviceRequest 0).Window ue.ulCount.toNat ue.ulCount.toNat :=
      ⟨le_rfl, by omega⟩
    obtain ⟨_, hreceive⟩ := nasReceive_serviceRequest_genuine
      hchecked.nasIntegrityAlgorithm hwindow
    have halgorithm : NasIntegrityAlgorithm ue'.selectedIntAlgorithm := by
      rw [hsame.selectedIntAlgorithm]
      exact hchecked.nasIntegrityAlgorithm
    have hboth := hgenuine (.serviceRequest 0) ue.ulCount.toNat trivial hwindow
    obtain ⟨m0, m1, _, hpdu⟩ := pdu_serviceRequest ue ue.ulCount.toNat 0
    rw [hpdu] at hreceive hboth
    have hfirst : (NasSecurityHeader.forServiceRequestMessage <<< 4 ||| 0x07) >>> 4 =
        NasSecurityHeader.forServiceRequestMessage := by decide
    have hmark := congrArg MmeUe.macFailed (nasReceive_checked
      (NasChecked.serviceRequest hfirst halgorithm rfl) (hboth.trans hreceive))
    rw [hue'] at hmark
    simpa [MmeUe.checked] using hmark
  · rintro ⟨hrepeats, hfailed⟩
    have hcount := hchecked.count_eq_iff.mpr hrepeats
    have hsame : ue' = ue := by
      rw [hue', hcount, MmeUe.checked, hfailed]
      cases ue
      simp_all
    rw [hsame]
    exact ⟨⟨rfl, rfl, rfl, rfl, rfl, rfl, rfl, rfl, rfl⟩, fun _ _ _ _ => rfl⟩

end

/-- A UE with a security context, EIA1 and EEA0, and `ul_count` 5. -/
def ueWithCount5 (macFailed : Bool) : MmeUe :=
  { MmeUe.zero with
    securityContextAvailable := true
    macFailed := macFailed
    selectedIntAlgorithm := 1
    ulCount := ⟨0, 5⟩ }

theorem nasReceive_failed_marked :
    let _ := OgsCrypt.reference
    (ueWithCount5 true).SameSecurity (ueWithCount5 true) ∧
      (ueWithCount5 true).SameForGenuine (ueWithCount5 true) := by
  intro _
  have hchecked : NasChecked (ueWithCount5 true) [0x17, 1, 1, 1, 1, 5, 0x07, 0x41] ⟨0, 5⟩
      false :=
    @NasChecked.message _ (ueWithCount5 true) 0x17 5 #v[1, 1, 1, 1] [0x07, 0x41] _ rfl rfl
      (Or.inl rfl) rfl
  have hreceive : ∃ nasbuf, nasReceive (ueWithCount5 true) [0x17, 1, 1, 1, 1, 5, 0x07, 0x41] =
      .ok (ueWithCount5 true, nasbuf) := ⟨_, rfl⟩
  obtain ⟨_, hreceive⟩ := hreceive
  exact (nasReceive_failed_iff hchecked hreceive).mpr ⟨⟨rfl, fun h => by cases h⟩, rfl⟩

/-- A wrong code and the sequence number 7 are sent to a UE that is not marked. -/
theorem nasReceive_failed_unmarked :
    let _ := OgsCrypt.reference
    ¬∀ (pdu : Bytes) (count : UlCount) (ue' : MmeUe) (nasbuf : Pkbuf),
      NasChecked (ueWithCount5 false) pdu count false →
      nasReceive (ueWithCount5 false) pdu = .ok (ue', nasbuf) →
      ue'.SameSecurity (ueWithCount5 false) ∧ ue'.SameForGenuine (ueWithCount5 false) := by
  intro _ hclaim
  have hchecked : NasChecked (ueWithCount5 false) [0x17, 1, 1, 1, 1, 7, 0x07, 0x41] ⟨0, 7⟩
      false :=
    @NasChecked.message _ (ueWithCount5 false) 0x17 7 #v[1, 1, 1, 1] [0x07, 0x41] _ rfl rfl
      (Or.inl rfl) rfl
  have hsame := (hclaim _ _ { ueWithCount5 true with ulCount := ⟨0, 7⟩ } _ hchecked
    rfl).1.ulCount
  exact absurd hsame (by decide)

section
variable [OgsCrypt]

/-! ## A message that is repeated -/

/-- The octets carry the authentication code that the keys of the UE give for a count. -/
def MmeUe.verifies (ue : MmeUe) (c : Nat) : Bytes → Bool
  | first :: o1 :: o2 :: o3 :: rest =>
    if first >>> 4 = NasSecurityHeader.forServiceRequestMessage then
      (ue.uplinkMac c [first, o1]).toList.drop 2 = [o2, o3]
    else match rest with
    | o4 :: sequenceNumber :: body =>
      [o1, o2, o3, o4] = (ue.uplinkMac c (sequenceNumber :: body)).toList
    | _ => false
  | _ => false

/-- The header type is one of those with an authentication code. -/
def NasIntegrityProtected (pdu : Bytes) : Prop :=
  ∃ first ∈ pdu.head?, (nasProtectedHeaderType (first >>> 4)).isSome = true ∨
    first >>> 4 = NasSecurityHeader.forServiceRequestMessage

/-- The header starts a new security context. -/
def NasNewSecurityContext (pdu : Bytes) : Prop :=
  ∃ first ∈ pdu.head?, nasHeaderNew (first >>> 4) = true

/-- The sequence number of a PDU takes the stored count beyond 24 bits. -/
def MmeUe.WrapsCount (ue : MmeUe) : Bytes → Prop
  | first :: rest =>
    ue.ulCount.overflow = 0xffff ∧
      if first >>> 4 = NasSecurityHeader.forServiceRequestMessage then
        0xe0 ≤ ue.ulCount.sqn ∧ ∃ q ∈ rest[0]?, q &&& 0x1f < ue.ulCount.sqn &&& 0x1f
      else ∃ q ∈ rest[4]?, q < ue.ulCount.sqn
  | [] => False

/-- A UE and the integrity protected PDUs that it sent and that were accepted. -/
structure NasHistory where
  ue : MmeUe
  accepted : List Bytes

/-- A step while the keys stay in use: a PDU is received, or something else happens that
leaves the integrity key and the count as they are. -/
inductive NasStep : NasHistory → Option Bytes → NasHistory → Prop
  | accept {s : NasHistory} {pdu : Bytes} {ue' : MmeUe} {nasbuf : Pkbuf} :
    nasReceive s.ue pdu = .ok (ue', nasbuf) → NasIntegrityProtected pdu →
    s.ue.macFailed = false → ue'.macFailed = false →
    NasStep s (some pdu) ⟨ue', pdu :: s.accepted⟩
  | receive {s : NasHistory} {pdu : Bytes} {ue' : MmeUe} {nasbuf : Pkbuf} :
    nasReceive s.ue pdu = .ok (ue', nasbuf) →
    ¬(NasIntegrityProtected pdu ∧ s.ue.macFailed = false ∧ ue'.macFailed = false) →
    NasStep s (some pdu) ⟨ue', s.accepted⟩
  | other {s : NasHistory} {ue' : MmeUe} :
    ue'.ulCount = s.ue.ulCount → ue'.knasInt = s.ue.knasInt →
    ue'.selectedIntAlgorithm = s.ue.selectedIntAlgorithm →
    NasStep s none ⟨ue', s.accepted⟩

/-- A PDU that cannot be taken for one that was accepted before: its code is checked, and
once a PDU has been accepted it neither starts the count again nor takes it beyond 24 bits,
and does not verify under the stored count. No PDU verifies under two counts. -/
structure NasFresh (s : NasHistory) (pdu : Bytes) : Prop where
  available : s.ue.securityContextAvailable = true
  algorithm : NasIntegrityAlgorithm s.ue.selectedIntAlgorithm
  keeps : s.accepted ≠ [] → ¬NasNewSecurityContext pdu
  grows : s.accepted ≠ [] → ¬s.ue.WrapsCount pdu
  differs : s.accepted ≠ [] → s.ue.RepeatsCount pdu → s.ue.verifies s.ue.ulCount.toNat pdu = false
  single : ∀ c c' : Nat, c < 2 ^ 24 → c' < 2 ^ 24 → s.ue.verifies c pdu = true →
    s.ue.verifies c' pdu = true → c = c'

/-- The accepted PDUs verify under counts up to the stored one, and are distinct. -/
structure NasHistory.Inv (s : NasHistory) : Prop where
  counted : ∀ pdu ∈ s.accepted, ∃ c ≤ s.ue.ulCount.toNat, s.ue.verifies c pdu = true
  nodup : s.accepted.Nodup

variable {ue ue' : MmeUe} {pdu : Bytes} {count : UlCount} {ok : Bool} {nasbuf : Pkbuf}

theorem MmeUe.verifies_congr (hkey : ue'.knasInt = ue.knasInt)
    (halgorithm : ue'.selectedIntAlgorithm = ue.selectedIntAlgorithm) (c : Nat) (pdu : Bytes) :
    ue'.verifies c pdu = ue.verifies c pdu := by
  have hmac : ue'.uplinkMac = ue.uplinkMac := by
    funext c data
    simp only [MmeUe.uplinkMac, hkey, halgorithm]
  unfold MmeUe.verifies
  rw [hmac]

theorem NasChecked.verifies_eq (hchecked : NasChecked ue pdu count ok) :
    ue.verifies count.toNat pdu = ok := by
  cases hchecked with
  | @message first sequenceNumber mac body _ htype _ _ _ =>
    obtain ⟨type, htype⟩ := Option.isSome_iff_exists.mp htype
    obtain ⟨-, -, -, -, -, hservice⟩ := nasProtectedHeaderType_some htype
    obtain ⟨m0, m1, m2, m3, rfl⟩ := exists_eq_octets4 mac
    refine (if_neg hservice).trans ?_
    rw [decide_eq_decide, ← Vector.toList_inj]
    rfl
  | serviceRequest hfirst _ _ =>
    simp only [MmeUe.verifies, if_pos hfirst]

omit [OgsCrypt] in
theorem length_of_strip {first : UInt8} {rest : Bytes} {r : NasSecurityHeaderType × Pkbuf}
    (htype : (nasProtectedHeaderType (first >>> 4)).isSome = true)
    (h : s1apStripSecurityHeader (first :: rest) = .ok (some r)) : 5 ≤ rest.length := by
  obtain ⟨type, htype⟩ := Option.isSome_iff_exists.mp htype
  obtain ⟨-, -, -, -, hplain, hservice⟩ := nasProtectedHeaderType_some htype
  by_contra hshort
  have hpull : (Pkbuf.alloc nasHeadroom (first :: rest)).pull 6 = none := by
    rw [Pkbuf.pull, if_neg]
    simp [Pkbuf.alloc]
    omega
  simp only [s1apStripSecurityHeader, if_neg hplain, if_neg hservice, htype, hpull] at h
  cases h

/-- With a security context the code of each protected PDU is checked. -/
theorem nasSecurityDecode_isChecked {type : NasSecurityHeaderType} {stripped : Pkbuf}
    {ciphered : Bool} {r : MmeUe × Pkbuf × Rv} (hprotected : NasIntegrityProtected pdu)
    (havailable : ue.securityContextAvailable = true)
    (halgorithm : NasIntegrityAlgorithm ue.selectedIntAlgorithm)
    (hstrip : s1apStripSecurityHeader pdu = .ok (some (type, stripped)))
    (h : nasSecurityDecode ue { type with ciphered := ciphered } stripped = .ok r) :
    ∃ count ok, NasChecked ue pdu count ok := by
  obtain ⟨first, hfirst, htype | hservice⟩ := hprotected
  · obtain ⟨rest, rfl⟩ := List.head?_eq_some_iff.mp hfirst
    have hlen := length_of_strip htype hstrip
    match rest with
    | o1 :: o2 :: o3 :: o4 :: sequenceNumber :: body =>
      exact ⟨_, _, @NasChecked.message _ ue first sequenceNumber #v[o1, o2, o3, o4] body _ htype
        havailable halgorithm rfl⟩
    | [] | [_] | [_, _] | [_, _, _] | [_, _, _, _] => simp at hlen
  · obtain ⟨rest, rfl⟩ := List.head?_eq_some_iff.mp hfirst
    match rest with
    | q :: m0 :: m1 :: rest => exact ⟨_, _, NasChecked.serviceRequest hservice halgorithm rfl⟩
    | [] | [_] | [_, _] =>
      simp only [s1apStripSecurityHeader, hservice, NasSecurityHeader.plainNasMessage,
        NasSecurityHeader.forServiceRequestMessage] at hstrip
      cases hstrip
      simp [nasSecurityDecode, nasSecurityDecodeServiceRequest, halgorithm.ne_zero, Pkbuf.alloc]
        at h

theorem nasReceive_isChecked (hprotected : NasIntegrityProtected pdu)
    (havailable : ue.securityContextAvailable = true)
    (halgorithm : NasIntegrityAlgorithm ue.selectedIntAlgorithm)
    (h : nasReceive ue pdu = .ok (ue', nasbuf)) : ∃ count ok, NasChecked ue pdu count ok := by
  obtain ⟨_, hstrip, h⟩ := Fallible.bind_eq_ok.mp h
  obtain ⟨⟨type, stripped⟩, hsome, h⟩ := Fallible.bind_eq_ok.mp h
  obtain ⟨r, hdecode, _⟩ := Fallible.bind_eq_ok.mp h
  rw [Fallible.assertSome_eq_ok.mp hsome] at hstrip
  exact nasSecurityDecode_isChecked hprotected havailable halgorithm hstrip hdecode

/-- Without a new context and a wrap the count does not become less. -/
theorem NasChecked.le_count (hchecked : NasChecked ue pdu count ok)
    (hnew : ¬NasNewSecurityContext pdu) (hwrap : ¬ue.WrapsCount pdu) :
    ue.ulCount.toNat ≤ count.toNat := by
  cases hchecked with
  | @message first sequenceNumber mac body _ htype _ _ hcount =>
    obtain ⟨type, htype⟩ := Option.isSome_iff_exists.mp htype
    obtain ⟨-, -, -, -, -, hservice⟩ := nasProtectedHeaderType_some htype
    have hbase : ue.baseCount (first >>> 4) = ue.ulCount := by
      rw [MmeUe.baseCount, if_neg]
      intro h
      exact hnew ⟨first, rfl, h⟩
    rw [hcount, hbase]
    apply UlCount.le_next
    rintro ⟨hover, hlt⟩
    apply hwrap
    rw [nasMessageOctets_eq_cons, MmeUe.WrapsCount, if_neg hservice, getElem_nasMessageOctets]
    exact ⟨hover, sequenceNumber, rfl, hlt⟩
  | @serviceRequest first q m0 m1 rest _ hfirst _ hcount =>
    have hlow : (q &&& 0x1f).toNat < 32 := by
      rw [UlCount.toNat_and_31]
      omega
    rw [hcount]
    apply UlCount.le_next
    rintro ⟨hover, hlt⟩
    obtain ⟨hhigh, hlt⟩ := (UlCount.estimatedSequenceNumber_lt_iff hlow).mp hlt
    apply hwrap
    rw [MmeUe.WrapsCount, if_pos hfirst]
    exact ⟨hover, hhigh, q, rfl, hlt⟩

/-- A PDU without protection leaves the UE as it is. -/
theorem nasReceive_unprotected (hunprotected : ¬NasIntegrityProtected pdu)
    (h : nasReceive ue pdu = .ok (ue', nasbuf)) : ue' = ue := by
  match pdu with
  | [] => cases h
  | first :: rest =>
    have hservice : ¬first >>> 4 = NasSecurityHeader.forServiceRequestMessage := fun hfirst =>
      hunprotected ⟨first, rfl, Or.inr hfirst⟩
    have hnone : nasProtectedHeaderType (first >>> 4) = none := by
      rw [← Option.not_isSome_iff_eq_none]
      exact fun htype => hunprotected ⟨first, rfl, Or.inl htype⟩
    by_cases hplain : first >>> 4 = NasSecurityHeader.plainNasMessage
    · simp only [nasReceive, s1apStripSecurityHeader, if_pos hplain, Fallible.ok_bind,
        Fallible.assertSome_some] at h
      simp only [nasSecurityDecode, NasSecurityHeaderType.available, ite_self] at h
      cases h
      rfl
    · simp only [nasReceive, s1apStripSecurityHeader, if_neg hplain, if_neg hservice, hnone,
        Fallible.ok_bind] at h
      cases h

/-- What is known of the accepted PDUs stays true for the count of the next one. -/
theorem NasHistory.Inv.counted_of_checked {s : NasHistory} (hs : s.Inv)
    (hfresh : NasFresh s pdu) (hchecked : NasChecked s.ue pdu count ok) :
    ∀ p ∈ s.accepted, ∃ c ≤ count.toNat, s.ue.verifies c p = true := by
  intro p hp
  have hne : s.accepted ≠ [] := List.ne_nil_of_mem hp
  obtain ⟨c, hc, hverifies⟩ := hs.counted p hp
  have hle := hchecked.le_count (hfresh.keeps hne) (hfresh.grows hne)
  exact ⟨c, hc.trans hle, hverifies⟩

/-- A fresh PDU that verifies was not accepted before: its count is higher. -/
theorem NasHistory.Inv.not_mem_accepted {s : NasHistory} (hs : s.Inv)
    (hfresh : NasFresh s pdu) (hchecked : NasChecked s.ue pdu count true) :
    pdu ∉ s.accepted := by
  intro hmem
  have hne : s.accepted ≠ [] := List.ne_nil_of_mem hmem
  obtain ⟨c, hc, hverifies⟩ := hs.counted pdu hmem
  have hle := hchecked.le_count (hfresh.keeps hne) (hfresh.grows hne)
  have hlt := s.ue.ulCount.toNat_lt
  have hsame : c = count.toNat :=
    hfresh.single c count.toNat (by omega) count.toNat_lt hverifies hchecked.verifies_eq
  have hstored : count = s.ue.ulCount := UlCount.toNat_inj.mp (by omega)
  have hdiffers := hfresh.differs hne (hchecked.count_eq_iff.mp hstored)
  rw [← hstored, hchecked.verifies_eq] at hdiffers
  cases hdiffers

/-- One step keeps the invariant. -/
theorem NasHistory.Inv.step {s t : NasHistory} {label : Option Bytes} (hs : s.Inv)
    (hstep : NasStep s label t)
    (hfresh : ∀ pdu ∈ label, NasIntegrityProtected pdu → NasFresh s pdu) : t.Inv := by
  cases hstep with
  | @accept pdu ue' nasbuf h hprotected hbefore hafter =>
    have hfresh := hfresh pdu rfl hprotected
    obtain ⟨count, ok, hchecked⟩ :=
      nasReceive_isChecked hprotected hfresh.available hfresh.algorithm h
    have hue' := nasReceive_checked hchecked h
    have hok : ok = true := by
      rw [hue'] at hafter
      simpa [MmeUe.checked, hbefore] using hafter
    subst hok hue'
    refine ⟨?_, List.nodup_cons.mpr ⟨hs.not_mem_accepted hfresh hchecked, hs.nodup⟩⟩
    intro p hp
    rcases List.mem_cons.mp hp with rfl | hp
    · exact ⟨count.toNat, le_rfl, hchecked.verifies_eq⟩
    · exact hs.counted_of_checked hfresh hchecked p hp
  | @receive pdu ue' nasbuf h _ =>
    refine ⟨?_, hs.nodup⟩
    by_cases hprotected : NasIntegrityProtected pdu
    · have hfresh := hfresh pdu rfl hprotected
      obtain ⟨count, ok, hchecked⟩ :=
        nasReceive_isChecked hprotected hfresh.available hfresh.algorithm h
      rw [nasReceive_checked hchecked h]
      exact hs.counted_of_checked hfresh hchecked
    · rw [nasReceive_unprotected hprotected h]
      exact hs.counted
  | @other ue' hcount hkey halgorithm =>
    refine ⟨?_, hs.nodup⟩
    intro p hp
    obtain ⟨c, hc, hverifies⟩ := hs.counted p hp
    refine ⟨c, ?_, ?_⟩
    · rw [hcount]
      exact hc
    · rw [MmeUe.verifies_congr hkey halgorithm]
      exact hverifies

/-- No PDU is accepted twice in a run in which each protected PDU is fresh. -/
theorem accepted_nodup (ue : MmeUe) (tr : List (Option Bytes × NasHistory))
    (htrace : Lts.Trace (Lts.Restrict
      (fun s label => ∀ pdu ∈ label, NasIntegrityProtected pdu → NasFresh s pdu) NasStep)
      ⟨ue, []⟩ tr) : ∀ p ∈ tr, p.2.accepted.Nodup := by
  intro p hp
  have hinv : p.2.Inv := htrace.invariant (fun s label t hs h => hs.step h.2 h.1)
    ⟨fun _ h => absurd h (List.not_mem_nil), List.nodup_nil⟩ p hp
  exact hinv.nodup

end

/-- The PDU with count `c`, under the reference functions. -/
def pduWithCount (c : UInt8) : Bytes := [0x17, 0, 0, 0, c, c, 0x07, 0x41]

theorem verifies_pduWithCount {ue : MmeUe} (halgorithm : ue.selectedIntAlgorithm = 1)
    (hkey : ue.knasInt.get 15 = 0) {q : UInt8} {c : Nat} (hc : c < 2 ^ 24) :
    let _ := OgsCrypt.reference
    ue.verifies c (pduWithCount q) = true → c = q.toNat := by
  intro _ hverifies
  have hmac : ue.uplinkMac c [q, 0x07, 0x41] = Octets.htonl (UInt32.ofNat c) := by
    simp only [MmeUe.uplinkMac, halgorithm, nasMac, Nat.mod_eq_of_lt hc]
    change Octets.htonl (UInt32.ofNat c ^^^ (ue.knasInt.get 15).toUInt32) = _
    rw [hkey]
    simp
  have heq : (#v[0, 0, 0, q] : Octets4) = Octets.htonl (UInt32.ofNat c) := by
    rw [← hmac]
    rw [pduWithCount, MmeUe.verifies, if_neg (by decide)] at hverifies
    exact Vector.toList_inj.mp (of_decide_eq_true hverifies)
  have hnat := congrArg (fun v => (Octets.ntohl v).toNat) heq
  have hq := q.toNat_lt
  simp only [Octets.ntohl_htonl, UInt32.toNat_ofNat'] at hnat
  simp [Octets.ntohl] at hnat
  omega

theorem accepted_nodup_two :
    let _ := OgsCrypt.reference
    [pduWithCount 7, pduWithCount 6].Nodup := by
  intro _
  have hfresh : ∀ (s : NasHistory) (q : UInt8), s.ue.securityContextAvailable = true →
      s.ue.selectedIntAlgorithm = 1 → s.ue.knasInt.get 15 = 0 → s.ue.ulCount.overflow = 0 →
      s.ue.ulCount.sqn ≠ q → NasFresh s (pduWithCount q) := by
    intro s q havailable halgorithm hkey hover hsqn
    refine ⟨havailable, Or.inl halgorithm, fun _ => ?_, fun _ => ?_, fun _ => ?_, ?_⟩
    · rintro ⟨first, hfirst, hnew⟩
      cases hfirst
      exact absurd hnew (by decide)
    · rintro ⟨hmax, _⟩
      rw [hover] at hmax
      exact absurd hmax (by decide)
    · rintro ⟨hq, _⟩
      exact absurd (Option.some_inj.mp hq).symm hsqn
    · intro c c' hc hc' h h'
      rw [verifies_pduWithCount halgorithm hkey hc h, verifies_pduWithCount halgorithm hkey hc' h']
  have hprotected : ∀ q, NasIntegrityProtected (pduWithCount q) := fun q =>
    ⟨0x17, rfl, Or.inl rfl⟩
  have hfirst : NasStep ⟨ueWithCount5 false, []⟩ (some (pduWithCount 6))
      ⟨{ ueWithCount5 false with ulCount := ⟨0, 6⟩ }, [pduWithCount 6]⟩ :=
    .accept rfl (hprotected 6) rfl rfl
  have hsecond : NasStep ⟨{ ueWithCount5 false with ulCount := ⟨0, 6⟩ }, [pduWithCount 6]⟩
      (some (pduWithCount 7))
      ⟨{ ueWithCount5 false with ulCount := ⟨0, 7⟩ }, [pduWithCount 7, pduWithCount 6]⟩ :=
    .accept rfl (hprotected 7) rfl rfl
  refine accepted_nodup (ueWithCount5 false) _ (.cons ⟨?_, hfirst⟩ (.cons ⟨?_, hsecond⟩ (.nil _)))
    _ (List.mem_cons_of_mem _ List.mem_cons_self)
  · rintro _ ⟨⟩ _
    exact hfresh _ 6 rfl rfl rfl rfl (by decide)
  · rintro _ ⟨⟩ _
    exact hfresh _ 7 rfl rfl rfl rfl (by decide)

/-- The PDU with count 6 is accepted twice. -/
theorem accepted_twice :
    let _ := OgsCrypt.reference
    ¬∀ (ue : MmeUe) (tr : List (Option Bytes × NasHistory)),
      Lts.Trace NasStep ⟨ue, []⟩ tr → ∀ p ∈ tr, p.2.accepted.Nodup := by
  intro _ hclaim
  have hprotected : NasIntegrityProtected (pduWithCount 6) := ⟨0x17, rfl, Or.inl rfl⟩
  have hfirst : NasStep ⟨ueWithCount5 false, []⟩ (some (pduWithCount 6))
      ⟨{ ueWithCount5 false with ulCount := ⟨0, 6⟩ }, [pduWithCount 6]⟩ :=
    .accept rfl hprotected rfl rfl
  have hsecond : NasStep ⟨{ ueWithCount5 false with ulCount := ⟨0, 6⟩ }, [pduWithCount 6]⟩
      (some (pduWithCount 6))
      ⟨{ ueWithCount5 false with ulCount := ⟨0, 6⟩ }, [pduWithCount 6, pduWithCount 6]⟩ :=
    .accept rfl hprotected rfl rfl
  have hnodup := hclaim (ueWithCount5 false) _ (.cons hfirst (.cons hsecond (.nil _)))
    _ (List.mem_cons_of_mem _ List.mem_cons_self)
  exact absurd hnodup (by decide)

end NextEpc

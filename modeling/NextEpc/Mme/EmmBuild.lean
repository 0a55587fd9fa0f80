import NextEpc.Mme.Tables
import NextEpc.Nas.MessageRoundTrip

/-!
# The EMM messages that the MME builds

The functions of `emm-build.c` set a message to zero and fill in the elements that
they send. Every message that they build is encoded if there is room for it, and decoded as it was
built, except for the spare bits of a GUTI, which the encoder sets. That does not hold for an
Authentication Request and a Security Mode Command.
-/

namespace NextEpc
open Fallible

/-! ## Records -/

/-- A record with a length octet, whose octets behind the value are zero -/
def lengthValueRecord (sizeof : Nat) (value : Bytes) : NasRecord :=
  .octets (UInt8.ofNat value.length :: value ++ List.replicate (sizeof - 1 - value.length) 0)

/-- A pointer to the octets of a buffer, whose length is a `uint16_t` -/
def containerRecord (buffer : Bytes) : NasRecord :=
  .container (UInt16.ofNat buffer.length) (some buffer)

section
variable [OgsNas] {t : NasMessageType} {mandatory : List NasRecord}
  {present : List (UInt8 × NasRecord)} {image value buffer : Bytes} {sizeof n : Nat}

/-- The record is one of the element, and comes back as `r'`. -/
def NasIe.Sends (ie : NasIe) (r r' : NasRecord) : Prop := ie.Fits r ∧ ie.received r = r'

/-- What is filled in comes back, element by element. -/
theorem NasBody.received_make (g : UInt8 → NasRecord → NasRecord)
    (hmandatory : List.Forall₂ (fun ie r => ie.Sends r r) t.mandatory mandatory)
    (hpresent : ∀ e ∈ present, ∃ ie, t.optional.lookup e.1 = some ie ∧ ie.isHalf = false ∧
      ie.Sends e.2 (g e.1 e.2)) :
    (make mandatory present).Fits t ∧ (make mandatory present).received t =
      ⟨mandatory, fun tag => (present.lookup tag).map (g tag)⟩ := by
  have hfits : List.Forall₂ NasIe.Fits t.mandatory mandatory :=
    hmandatory.imp fun _ _ hsends => hsends.1
  have hnormal : List.Forall₂ NasIe.IsNormal t.mandatory mandatory :=
    hmandatory.imp fun _ _ hsends => hsends.2
  refine ⟨fits_make hfits fun e he => ?_, ?_⟩
  · obtain ⟨ie, hie, -, hsends⟩ := hpresent e he
    exact ⟨ie, hie, hsends.1⟩
  have hmap := (map_received_eq_iff hfits.length_eq).mpr hnormal
  have hoptional : ((make mandatory present).received t).optional =
      fun tag => (present.lookup tag).map (g tag) := by
    funext tag
    change (t.optional.lookup tag).bind (fun ie => (present.lookup tag).map _) = _
    cases hr : present.lookup tag with
    | none => cases t.optional.lookup tag <;> rfl
    | some r =>
      obtain ⟨ie, hie, hhalf, hsends⟩ := hpresent _ (mem_of_lookup hr)
      rw [hie, Option.bind_some, Option.map_some, Option.map_some, taggedReceived, hhalf]
      exact congrArg some hsends.2
  exact NasBody.mk.injEq .. ▸ ⟨hmap, hoptional⟩

/-! ## Records that come back as they are -/

theorem sends_value (h : image.length = n) :
    (NasIe.plain (.value n) n).Sends (.octets image) (.octets image) := by
  have hfits : (NasIe.plain (.value n) n).Fits (.octets image) :=
    ⟨h, n, rfl, Nat.zero_le _, Nat.le_refl _⟩
  exact ⟨hfits, NasIe.isNormal_value hfits⟩

/-- A record with a length octet comes back if the octets behind its value are zero. -/
theorem sends_octets {length : UInt8} (hlength : value.length = length.toNat)
    (hroom : length.toNat + 1 ≤ sizeof) : (NasIe.plain .lengthValue sizeof).Sends
      (.octets (length :: value ++ List.replicate (sizeof - 1 - length.toNat) 0))
      (.octets (length :: value ++ List.replicate (sizeof - 1 - length.toNat) 0)) := by
  have hfits : (NasIe.plain .lengthValue sizeof).Fits
      (.octets (length :: value ++ List.replicate (sizeof - 1 - length.toNat) 0)) := by
    refine ⟨?_, length.toNat + 1, rfl, Nat.le_add_left 1 _, hroom⟩
    rw [List.cons_append, List.length_cons, List.length_append, List.length_replicate, hlength]
    change _ = sizeof
    omega
  refine ⟨hfits, (NasIe.isNormal_plain hfits).mpr ⟨length.toNat + 1, rfl, ?_⟩⟩
  rw [List.cons_append, List.drop_succ_cons, ← hlength, List.drop_left]
  congr 1
  omega

theorem sends_lengthValueRecord (hlt : value.length < 256) (hroom : value.length + 1 ≤ sizeof) :
    (NasIe.plain .lengthValue sizeof).Sends (lengthValueRecord sizeof value)
      (lengthValueRecord sizeof value) := by
  have hlength : value.length = (UInt8.ofNat value.length).toNat := by
    rw [UInt8.toNat_ofNat', Nat.mod_eq_of_lt hlt]
  have hsends : (NasIe.plain .lengthValue sizeof).Sends _ _ :=
    sends_octets hlength (by rw [← hlength]; exact hroom)
  rw [← hlength] at hsends
  exact hsends

theorem sends_containerRecord (hlen : buffer.length + 2 < 2 ^ 16) :
    NasIe.container.Sends (containerRecord buffer) (containerRecord buffer) := by
  have heq : (UInt16.ofNat buffer.length).toNat = buffer.length := by
    rw [UInt16.toNat_ofNat', Nat.mod_eq_of_lt (by omega)]
  have hfits : NasIe.container.Fits (containerRecord buffer) :=
    ⟨by rw [heq]; exact hlen, buffer, rfl, Nat.le_of_eq heq⟩
  exact ⟨hfits, (NasIe.isNormal_container hfits).mpr heq.symm⟩

end

/-! ## EMM messages -/

/-- `unit` and `value` of T3412 and T3423: nine times six minutes -/
def nasTimer : NasRecord := .octets [0x49]

/-- A record with `ims_vops` -/
def epsNetworkFeatureSupport : NasRecord := .octets [1, 1, 0]

/-- A record with `guti` -/
def gutiRecord (guti : OgsNasGuti) : NasRecord :=
  .octets ([11, NasIe.epsMobileIdentityGuti] ++ guti.nasPlmnId.toList ++ Octets.host16 guti.mmeGid ++
    [guti.mmeCode] ++ Octets.host32 guti.mTmsi)

/-- A record with `tmsi` -/
def tmsiRecord (tmsi : UInt32) : NasRecord :=
  .octets ([5, 0xf4] ++ Octets.host32 tmsi ++ [0, 0, 0])

/-- `csmap->lai` and `p_tmsi` of a UE that is registered for CS -/
structure NasLai where
  nasPlmnId : Vector UInt8 3
  lac : UInt16
  pTmsi : UInt32
  deriving DecidableEq, Repr

/-- The bit of a bearer in `eps_bearer_context_status` -/
def setEbi (status : UInt8 × UInt8) (ebi : UInt8) : UInt8 × UInt8 :=
  if 5 ≤ ebi ∧ ebi ≤ 7 then (status.1 ||| 1 <<< ebi, status.2)
  else if 8 ≤ ebi ∧ ebi ≤ 15 then (status.1, status.2 ||| 1 <<< (ebi - 8))
  else status

/-- A record with a bit for each bearer of the UE -/
def epsBearerContextStatus (ebis : List UInt8) : NasRecord :=
  let status := ebis.foldl setEbi (0, 0)
  .octets [2, status.1, status.2]

namespace NasEmmMessage

/-- A message that has been set to zero, with its protocol discriminator and type -/
def build (messageType : UInt8) (mandatory : List NasRecord) (present : List (UInt8 × NasRecord)) :
    NasEmmMessage := ⟨⟨0x07, messageType⟩, .make mandatory present⟩

/-- `emm_build_attach_accept`, with the list that `ogs_nas_tai_list_build` makes -/
def emmBuildAttachAccept (attachType : UInt8) (taiList esmbuf : Bytes) (guti : Option OgsNasGuti)
    (csmap : Option NasLai) : NasEmmMessage :=
  build 0x42 [.octets [attachType &&& 7], nasTimer, lengthValueRecord 97 taiList,
      containerRecord esmbuf]
    ((guti.map fun guti => (0x50, gutiRecord guti)).toList ++
      [(0x59, nasTimer), (0x64, epsNetworkFeatureSupport)] ++
      (csmap.map fun lai => [(0x13, .octets (lai.nasPlmnId.toList ++ Octets.host16 lai.lac)),
        (0x23, tmsiRecord lai.pTmsi)]).getD [])

/-- `emm_build_attach_reject` -/
def emmBuildAttachReject (emmCause : UInt8) (esmbuf : Option Bytes) : NasEmmMessage :=
  build 0x44 [.octets [emmCause]] (esmbuf.map fun esmbuf => (0x78, containerRecord esmbuf)).toList

/-- `emm_build_identity_request` -/
def emmBuildIdentityRequest : NasEmmMessage := build 0x55 [.octets [1]] []

/-- `emm_build_authentication_reject` -/
def emmBuildAuthenticationReject : NasEmmMessage := build 0x54 [] []

/-- `emm_build_detach_accept` -/
def emmBuildDetachAccept : NasEmmMessage := build 0x46 [] []

/-- `emm_build_tau_accept` -/
def emmBuildTauAccept (updateType : UInt8) (taiList : Bytes) (ebis : List UInt8) : NasEmmMessage :=
  build 0x49 [.octets [updateType &&& 7]]
    [(0x5a, nasTimer), (0x54, lengthValueRecord 97 taiList), (0x57, epsBearerContextStatus ebis),
      (0x59, nasTimer), (0x64, epsNetworkFeatureSupport)]

/-- `emm_build_tau_reject` -/
def emmBuildTauReject (emmCause : UInt8) : NasEmmMessage := build 0x4b [.octets [emmCause]] []

/-- `emm_build_service_reject` -/
def emmBuildServiceReject (emmCause : UInt8) : NasEmmMessage := build 0x4e [.octets [emmCause]] []

/-- `emm_build_cs_service_notification` -/
def emmBuildCsServiceNotification : NasEmmMessage := build 0x64 [.octets [1]] []

/-- `emm_build_downlink_nas_transport`. The octets are copied into an array of 250 without a look at
how many there are. -/
def emmBuildDownlinkNasTransport (buffer : Bytes) : NasM NasEmmMessage :=
  if buffer.length ≤ 250 then .ok (build 0x62 [lengthValueRecord 251 buffer] [])
  else .error .outOfBounds

/-- The messages that the MME builds, with the lengths that its buffers have. A builder may write
behind its array instead. -/
inductive Built : NasMessageType → NasEmmMessage → Prop
  | attachAccept (attachType : UInt8) (taiList esmbuf : Bytes) (guti : Option OgsNasGuti)
    (csmap : Option NasLai) : taiList.length ≤ 96 → esmbuf.length + 2 < 2 ^ 16 →
    Built .attachAccept (emmBuildAttachAccept attachType taiList esmbuf guti csmap)
  | attachReject (emmCause : UInt8) (esmbuf : Option Bytes) :
    (∀ buffer ∈ esmbuf, buffer.length + 2 < 2 ^ 16) →
    Built .attachReject (emmBuildAttachReject emmCause esmbuf)
  | identityRequest : Built .identityRequest emmBuildIdentityRequest
  | authenticationReject : Built .empty emmBuildAuthenticationReject
  | detachAccept : Built .empty emmBuildDetachAccept
  | tauAccept (updateType : UInt8) (taiList : Bytes) (ebis : List UInt8) : taiList.length ≤ 96 →
    Built .trackingAreaUpdateAccept (emmBuildTauAccept updateType taiList ebis)
  | tauReject (emmCause : UInt8) : Built .trackingAreaUpdateReject (emmBuildTauReject emmCause)
  | serviceReject (emmCause : UInt8) : Built .serviceReject (emmBuildServiceReject emmCause)
  | csServiceNotification : Built .csServiceNotification emmBuildCsServiceNotification
  | downlinkNasTransport {buffer : Bytes} {message : NasEmmMessage} :
    emmBuildDownlinkNasTransport buffer = .ok message → Built .downlinkNasTransport message

/-- A Downlink NAS Transport is built if the octets have room in the array. -/
theorem emmBuildDownlinkNasTransport_eq_ok {buffer : Bytes} {message : NasEmmMessage} :
    emmBuildDownlinkNasTransport buffer = .ok message ↔
      buffer.length ≤ 250 ∧ build 0x62 [lengthValueRecord 251 buffer] [] = message := by
  unfold emmBuildDownlinkNasTransport
  split_ifs with h
  · simp [h]
  · simp [h]

/-- The spare bits of a GUTI are set. -/
def setSpare (tag : UInt8) : NasRecord → NasRecord
  | .octets image => .octets (if tag = 0x50 then setUpper 1 0xf image else image)
  | r => r

section
variable [OgsNas] {t : NasMessageType} {message : NasEmmMessage}

omit [OgsNas] in
theorem setSpare_of_ne {tag : UInt8} (h : tag ≠ 0x50) (r : NasRecord) : setSpare tag r = r := by
  cases r with
  | octets image => rw [setSpare, if_neg h]
  | container length buffer => rfl

theorem sends_guti (guti : OgsNasGuti) :
    NasIe.epsMobileIdentity.Sends (gutiRecord guti) (setSpare 0x50 (gutiRecord guti)) := by
  match guti with
  | ⟨⟨⟨[plmn1, plmn2, plmn3]⟩, hplmn⟩, mmeGid, mmeCode, mTmsi⟩ =>
    exact ⟨⟨rfl, 12, rfl, by decide, by decide⟩, NasIe.received_guti _ _ _ _ _ _ _ _ _ _ _ rfl⟩

theorem sends_tmsi (tmsi : UInt32) :
    NasIe.mobileIdentity.Sends (tmsiRecord tmsi) (tmsiRecord tmsi) :=
  ⟨⟨rfl, 6, rfl, by decide, by decide⟩, NasIe.isNormal_tmsi _ _ _ _⟩

theorem sends_lai (lai : NasLai) : NasIe.locationAreaIdentification.Sends
    (.octets (lai.nasPlmnId.toList ++ Octets.host16 lai.lac))
    (.octets (lai.nasPlmnId.toList ++ Octets.host16 lai.lac)) := by
  match lai with
  | ⟨⟨⟨[plmn1, plmn2, plmn3]⟩, hplmn⟩, lac, pTmsi⟩ =>
    exact ⟨⟨rfl, 5, rfl, by decide, by decide⟩, rfl⟩

theorem sends_epsNetworkFeatureSupport :
    NasIe.epsNetworkFeatureSupport.Sends epsNetworkFeatureSupport epsNetworkFeatureSupport :=
  @sends_octets _ [1] 3 1 rfl (by decide)

theorem sends_epsBearerContextStatus (ebis : List UInt8) : NasIe.epsBearerContextStatus.Sends
    (epsBearerContextStatus ebis) (epsBearerContextStatus ebis) :=
  @sends_octets _ [_, _] 3 2 rfl (by decide)

theorem sends_timer : (NasIe.plain (.value 1) 1).Sends nasTimer nasTimer := sends_value rfl

/-- An element that is no GUTI comes back as it is. -/
theorem sends_of_ne {tag : UInt8} {ie : NasIe} {r : NasRecord} (hne : (tag == 0x50) = false)
    (h : ie.Sends r r) : ie.Sends r (setSpare tag r) := by
  rw [setSpare_of_ne (ne_of_beq_false hne)]
  exact h

/-- What the MME builds comes back with the spare bits of a GUTI set. -/
theorem Built.received (h : Built t message) : message.body.Fits t ∧
    message.body.received t =
      ⟨message.body.mandatory, fun tag => (message.body.optional tag).map (setSpare tag)⟩ := by
  cases h with
  | attachAccept attachType taiList esmbuf guti csmap htaiList hesmbuf =>
    refine NasBody.received_make setSpare (.cons (sends_value rfl) (.cons sends_timer (.cons
      (sends_lengthValueRecord (by omega) (by omega)) (.cons (sends_containerRecord hesmbuf)
        .nil)))) fun e he => ?_
    rw [List.mem_append, List.mem_append] at he
    obtain (hguti | hfixed) | hlai := he
    · cases guti with
      | none => cases hguti
      | some guti =>
        obtain rfl := List.mem_singleton.mp hguti
        exact ⟨_, rfl, rfl, sends_guti guti⟩
    · match e, hfixed with
      | _, .head _ => exact ⟨_, rfl, rfl, sends_of_ne rfl sends_timer⟩
      | _, .tail _ (.head _) =>
        exact ⟨_, rfl, rfl, sends_of_ne rfl sends_epsNetworkFeatureSupport⟩
    · cases csmap with
      | none => cases hlai
      | some lai =>
        match e, hlai with
        | _, .head _ => exact ⟨_, rfl, rfl, sends_of_ne rfl (sends_lai lai)⟩
        | _, .tail _ (.head _) =>
          exact ⟨_, rfl, rfl, sends_of_ne rfl (sends_tmsi lai.pTmsi)⟩
  | attachReject emmCause esmbuf hesmbuf =>
    refine NasBody.received_make setSpare (.cons (sends_value rfl) .nil) fun e he => ?_
    cases esmbuf with
    | none => cases he
    | some buffer =>
      obtain rfl := List.mem_singleton.mp he
      exact ⟨_, rfl, rfl, sends_of_ne rfl (sends_containerRecord (hesmbuf buffer rfl))⟩
  | identityRequest => exact NasBody.received_make setSpare (.cons (sends_value rfl) .nil) nofun
  | authenticationReject => exact NasBody.received_make setSpare .nil nofun
  | detachAccept => exact NasBody.received_make setSpare .nil nofun
  | tauAccept updateType taiList ebis htaiList =>
    refine NasBody.received_make setSpare (.cons (sends_value rfl) .nil) fun e he => ?_
    match e, he with
    | _, .head _ => exact ⟨_, rfl, rfl, sends_of_ne rfl sends_timer⟩
    | _, .tail _ (.head _) =>
      exact ⟨_, rfl, rfl, sends_of_ne rfl
        (sends_lengthValueRecord (by omega) (by omega))⟩
    | _, .tail _ (.tail _ (.head _)) =>
      exact ⟨_, rfl, rfl, sends_of_ne rfl (sends_epsBearerContextStatus ebis)⟩
    | _, .tail _ (.tail _ (.tail _ (.head _))) =>
      exact ⟨_, rfl, rfl, sends_of_ne rfl sends_timer⟩
    | _, .tail _ (.tail _ (.tail _ (.tail _ (.head _)))) =>
      exact ⟨_, rfl, rfl, sends_of_ne rfl sends_epsNetworkFeatureSupport⟩
  | tauReject emmCause => exact NasBody.received_make setSpare (.cons (sends_value rfl) .nil) nofun
  | serviceReject emmCause =>
    exact NasBody.received_make setSpare (.cons (sends_value rfl) .nil) nofun
  | csServiceNotification =>
    exact NasBody.received_make setSpare (.cons (sends_value rfl) .nil) nofun
  | downlinkNasTransport hbuilt =>
    obtain ⟨hbuffer, rfl⟩ := emmBuildDownlinkNasTransport_eq_ok.mp hbuilt
    exact NasBody.received_make setSpare
      (.cons (sends_lengthValueRecord (by omega) (by omega)) .nil) nofun

omit [OgsNas] in
theorem sent_of_emmSent {type : UInt8} (ht : emmSent type = some t)
    (hplain : type ∉ [ogsNasDetachRequest, ogsNasAuthenticationRequest, ogsNasSecurityModeCommand]) :
    (⟨0x07, type⟩ : EmmHeader).sent = some t ∧ (⟨0x07, type⟩ : EmmHeader).IsPlain ∧
      ¬(⟨0x07, type⟩ : EmmHeader).IsServiceRequest := by
  have hservice : ¬(⟨0x07, type⟩ : EmmHeader).IsServiceRequest := by
    change ¬(12 : UInt8) ≤ (0x07 : UInt8) >>> 4
    decide
  simp only [List.mem_cons, List.not_mem_nil, or_false, not_or] at hplain
  refine ⟨?_, .inr hplain, hservice⟩
  rw [EmmHeader.sent, if_neg hservice]
  exact ht

omit [OgsNas] in
theorem Built.sent (h : Built t message) :
    message.h.sent = some t ∧ message.h.IsPlain ∧ ¬message.h.IsServiceRequest := by
  cases h with
  | attachAccept => exact sent_of_emmSent rfl (by decide)
  | attachReject => exact sent_of_emmSent rfl (by decide)
  | identityRequest => exact sent_of_emmSent rfl (by decide)
  | authenticationReject => exact sent_of_emmSent rfl (by decide)
  | detachAccept => exact sent_of_emmSent rfl (by decide)
  | tauAccept => exact sent_of_emmSent rfl (by decide)
  | tauReject => exact sent_of_emmSent rfl (by decide)
  | serviceReject => exact sent_of_emmSent rfl (by decide)
  | csServiceNotification => exact sent_of_emmSent rfl (by decide)
  | downlinkNasTransport hbuilt =>
    obtain ⟨-, rfl⟩ := emmBuildDownlinkNasTransport_eq_ok.mp hbuilt
    exact sent_of_emmSent rfl (by decide)

/-- A message that the MME builds is encoded if there is room for it, and decoded as it was built,
with the spare bits of a GUTI set. -/
theorem ogsNasEmmEncode_built (h : Built t message) (p : Pkbuf) :
    ogsNasEmmEncode message = .ok (some p) ↔
      (message.wire t).length ≤ nasCap ∧ p = .alloc ogsNasHeadroom (message.wire t) ∧
        ogsNasEmmDecode p = .ok (⟨message.h, message.body.mandatory,
          fun tag => (message.body.optional tag).map (setSpare tag)⟩, p) := by
  obtain ⟨hsent, hplain, hservice⟩ := h.sent
  obtain ⟨hfits, hreceived⟩ := h.received
  have hsame : message.received t = ⟨message.h, message.body.mandatory,
      fun tag => (message.body.optional tag).map (setSpare tag)⟩ := by
    rw [received, if_neg hservice, hreceived]
  rw [ogsNasEmmEncode_eq_ok hsent hfits, ← hsame]
  constructor
  · rintro ⟨hroom, rfl⟩
    exact ⟨hroom, rfl, ogsNasEmmDecode_wire hsent hfits hplain hroom⟩
  · rintro ⟨hroom, rfl, -⟩
    exact ⟨hroom, rfl⟩

end

section
attribute [local instance] OgsNas.reference

/-- An Attach Accept with a GUTI -/
theorem ogsNasEmmEncode_built_attachAccept :
    let message := emmBuildAttachAccept 1 [0x00, 0x62, 0xf2, 0x24, 0x30, 0x39] [0x52, 1, 0xc1]
      (some ⟨#v[0x62, 0xf2, 0x24], 2, 1, 0xc0000001⟩) none
    let p := Pkbuf.alloc ogsNasHeadroom (message.wire .attachAccept)
    ogsNasEmmDecode p = .ok (⟨message.h, message.body.mandatory,
      fun tag => (message.body.optional tag).map (setSpare tag)⟩, p) :=
  ((ogsNasEmmEncode_built (.attachAccept _ _ _ _ _ (by decide) (by decide)) _).mp
    (by decide +kernel)).2.2

end

end NasEmmMessage

end NextEpc

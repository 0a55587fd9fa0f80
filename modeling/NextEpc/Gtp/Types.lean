import NextEpc.Lib.Parts
import NextEpc.Ogslib

/-!
# User Location Information and Bearer QoS

The codecs of `lib/gtp/types.c` for two information elements. The parts of a User Location
Information are packed structures behind an octet of flags; `ogs_tai_t`, `ogs_e_cgi_t` and the
functions that write and read numbers of five octets are in ogslib, and the octets that
`gtp-message-test.c` expects say how these are laid out.
-/

namespace NextEpc

inductive TypesSite
  | parseBearerQos
  | buildBearerQos
  | parseUli
  | buildUli
  deriving DecidableEq, Repr

abbrev TypesM := Fallible TypesSite

/-- `OGS_GTPU_MSGTYPE_GPDU` -/
def gtpuMsgtypeGpdu : UInt8 := 255

/-! ## User Location Information -/

/-- `ogs_plmn_id_t` -/
abbrev OgsPlmnId := Vector UInt8 3

/-- The octet of flags in `ogs_gtp_uli_t`, with two spare bits -/
structure GtpUliFlags where
  octet : UInt8
  deriving DecidableEq, Repr

namespace GtpUliFlags
variable (flags : GtpUliFlags)

def bit (i : Nat) : Bool := flags.octet.toNat.testBit i

def cgi : Bool := flags.bit 0
def sai : Bool := flags.bit 1
def rai : Bool := flags.bit 2
def tai : Bool := flags.bit 3
def eCgi : Bool := flags.bit 4
def lai : Bool := flags.bit 5

end GtpUliFlags

/-- `ogs_gtp_uli_cgi_t` -/
structure GtpUliCgi where
  plmnId : OgsPlmnId := Vector.replicate 3 0
  lac : UInt16 := 0
  ci : UInt16 := 0
  deriving DecidableEq

/-- `ogs_gtp_uli_sai_t` -/
structure GtpUliSai where
  plmnId : OgsPlmnId := Vector.replicate 3 0
  lac : UInt16 := 0
  sac : UInt16 := 0
  deriving DecidableEq

/-- `ogs_gtp_uli_rai_t` -/
structure GtpUliRai where
  plmnId : OgsPlmnId := Vector.replicate 3 0
  lac : UInt16 := 0
  rac : UInt16 := 0
  deriving DecidableEq

/-- `ogs_tai_t` -/
structure GtpUliTai where
  plmnId : OgsPlmnId := Vector.replicate 3 0
  tac : UInt16 := 0
  deriving DecidableEq

/-- `ogs_e_cgi_t` -/
structure GtpUliECgi where
  plmnId : OgsPlmnId := Vector.replicate 3 0
  cellId : UInt32 := 0
  deriving DecidableEq

/-- `ogs_gtp_uli_lai_t` -/
structure GtpUliLai where
  plmnId : OgsPlmnId := Vector.replicate 3 0
  lac : UInt16 := 0
  deriving DecidableEq

/-- `ogs_gtp_uli_t` -/
structure GtpUli where
  flags : GtpUliFlags
  cgi : GtpUliCgi := {}
  sai : GtpUliSai := {}
  rai : GtpUliRai := {}
  tai : GtpUliTai := {}
  eCgi : GtpUliECgi := {}
  lai : GtpUliLai := {}
  deriving DecidableEq

/-! ### Octets of the parts -/

open FixedCodec

def GtpUliFlags.codec : FixedCodec GtpUliFlags where
  width := 1
  encode flags := [flags.octet]
  decode data := ⟨data.headD 0⟩
  length_encode _ := rfl
  decode_encode _ := rfl

def GtpUliCgi.codec : FixedCodec GtpUliCgi :=
  ((octets 3).prod (uint16.prod uint16)).map
    ⟨fun c => (c.plmnId, c.lac, c.ci), fun p => ⟨p.1, p.2.1, p.2.2⟩, fun _ => rfl, fun _ => rfl⟩

def GtpUliSai.codec : FixedCodec GtpUliSai :=
  ((octets 3).prod (uint16.prod uint16)).map
    ⟨fun c => (c.plmnId, c.lac, c.sac), fun p => ⟨p.1, p.2.1, p.2.2⟩, fun _ => rfl, fun _ => rfl⟩

def GtpUliRai.codec : FixedCodec GtpUliRai :=
  ((octets 3).prod (uint16.prod uint16)).map
    ⟨fun c => (c.plmnId, c.lac, c.rac), fun p => ⟨p.1, p.2.1, p.2.2⟩, fun _ => rfl, fun _ => rfl⟩

def GtpUliTai.codec : FixedCodec GtpUliTai :=
  ((octets 3).prod uint16).map
    ⟨fun c => (c.plmnId, c.tac), fun p => ⟨p.1, p.2⟩, fun _ => rfl, fun _ => rfl⟩

def GtpUliECgi.codec : FixedCodec GtpUliECgi :=
  ((octets 3).prod uint32).map
    ⟨fun c => (c.plmnId, c.cellId), fun p => ⟨p.1, p.2⟩, fun _ => rfl, fun _ => rfl⟩

def GtpUliLai.codec : FixedCodec GtpUliLai :=
  ((octets 3).prod uint16).map
    ⟨fun c => (c.plmnId, c.lac), fun p => ⟨p.1, p.2⟩, fun _ => rfl, fun _ => rfl⟩

/-- `OGS_GTP_MAX_ULI_LEN` -/
def ogsGtpMaxUliLen : Nat := 1 + 7 + 7 + 7 + 5 + 7 + 5

/-! ### The codec -/

def ogsGtpParseUli (octet : Bytes) : TypesM (GtpUli × Nat) := do
  let some first := octet.head? | .error .outOfBounds
  let flags : GtpUliFlags := ⟨first⟩
  let (cgi, size) ← GtpUliCgi.codec.take flags.cgi .parseUli {} octet 1
  let (sai, size) ← GtpUliSai.codec.take flags.sai .parseUli {} octet size
  let (rai, size) ← GtpUliRai.codec.take flags.rai .parseUli {} octet size
  let (tai, size) ← GtpUliTai.codec.take flags.tai .parseUli {} octet size
  let (eCgi, size) ← GtpUliECgi.codec.take flags.eCgi .parseUli {} octet size
  let (lai, size) ← GtpUliLai.codec.take flags.lai .parseUli {} octet size
  Fallible.assert .parseUli (size = octet.length)
  .ok (⟨flags, cgi, sai, rai, tai, eCgi, lai⟩, size)

/-- The octets are written to a buffer of `dataLen` octets. -/
def ogsGtpBuildUli (uli : GtpUli) (dataLen : Nat) : TypesM Bytes := do
  Fallible.assert .buildUli (dataLen ≠ 0)
  let data ← GtpUliFlags.codec.put true uli.flags .buildUli dataLen []
  let data ← GtpUliCgi.codec.put uli.flags.cgi uli.cgi .buildUli dataLen data
  let data ← GtpUliSai.codec.put uli.flags.sai uli.sai .buildUli dataLen data
  let data ← GtpUliRai.codec.put uli.flags.rai uli.rai .buildUli dataLen data
  let data ← GtpUliTai.codec.put uli.flags.tai uli.tai .buildUli dataLen data
  let data ← GtpUliECgi.codec.put uli.flags.eCgi uli.eCgi .buildUli dataLen data
  GtpUliLai.codec.put uli.flags.lai uli.lai .buildUli dataLen data

namespace GtpUli
variable (uli : GtpUli)

/-- The octets in front of each part, and all of them -/
def upToFlags : Bytes := [uli.flags.octet]
def upToCgi : Bytes := uli.upToFlags ++ GtpUliCgi.codec.part uli.flags.cgi uli.cgi
def upToSai : Bytes := uli.upToCgi ++ GtpUliSai.codec.part uli.flags.sai uli.sai
def upToRai : Bytes := uli.upToSai ++ GtpUliRai.codec.part uli.flags.rai uli.rai
def upToTai : Bytes := uli.upToRai ++ GtpUliTai.codec.part uli.flags.tai uli.tai
def upToECgi : Bytes := uli.upToTai ++ GtpUliECgi.codec.part uli.flags.eCgi uli.eCgi
def octets : Bytes := uli.upToECgi ++ GtpUliLai.codec.part uli.flags.lai uli.lai

/-- What the octets say: parts that are absent are zero. -/
def parsed : GtpUli where
  flags := uli.flags
  cgi := if uli.flags.cgi then uli.cgi else {}
  sai := if uli.flags.sai then uli.sai else {}
  rai := if uli.flags.rai then uli.rai else {}
  tai := if uli.flags.tai then uli.tai else {}
  eCgi := if uli.flags.eCgi then uli.eCgi else {}
  lai := if uli.flags.lai then uli.lai else {}

/-- A buffer of the greatest length has room for every part. -/
theorem lengths : uli.upToCgi.length ≤ 8 ∧ uli.upToSai.length ≤ 15 ∧ uli.upToRai.length ≤ 22 ∧
    uli.upToTai.length ≤ 27 ∧ uli.upToECgi.length ≤ 34 := by
  have hcgi : uli.upToCgi.length ≤ 1 + 7 :=
    GtpUliCgi.codec.length_append_part_le uli.flags.cgi uli.cgi
  have hsai : uli.upToSai.length ≤ uli.upToCgi.length + 7 :=
    GtpUliSai.codec.length_append_part_le uli.flags.sai uli.sai
  have hrai : uli.upToRai.length ≤ uli.upToSai.length + 7 :=
    GtpUliRai.codec.length_append_part_le uli.flags.rai uli.rai
  have htai : uli.upToTai.length ≤ uli.upToRai.length + 5 :=
    GtpUliTai.codec.length_append_part_le uli.flags.tai uli.tai
  have heCgi : uli.upToECgi.length ≤ uli.upToTai.length + 7 :=
    GtpUliECgi.codec.length_append_part_le uli.flags.eCgi uli.eCgi
  omega

end GtpUli

theorem ogsGtpBuildUli_eq (uli : GtpUli) {dataLen : Nat} (h : ogsGtpMaxUliLen ≤ dataLen) :
    ogsGtpBuildUli uli dataLen = .ok uli.octets := by
  obtain ⟨hcgi, hsai, hrai, htai, heCgi⟩ := uli.lengths
  have hmax : 39 ≤ dataLen := h
  have hne : dataLen ≠ 0 := by omega
  have hflags : GtpUliFlags.codec.put true uli.flags TypesSite.buildUli dataLen [] =
      .ok uli.upToFlags :=
    GtpUliFlags.codec.put_eq true uli.flags _ (by show 0 + 1 ≤ dataLen; omega)
  rw [ogsGtpBuildUli, Fallible.assert_of hne, Fallible.ok_bind, hflags, Fallible.ok_bind,
    GtpUliCgi.codec.put_eq _ _ _ (by show 1 + 7 ≤ dataLen; omega), Fallible.ok_bind,
    GtpUliSai.codec.put_eq _ _ _ (by show uli.upToCgi.length + 7 ≤ dataLen; omega),
    Fallible.ok_bind,
    GtpUliRai.codec.put_eq _ _ _ (by show uli.upToSai.length + 7 ≤ dataLen; omega),
    Fallible.ok_bind,
    GtpUliTai.codec.put_eq _ _ _ (by show uli.upToRai.length + 5 ≤ dataLen; omega),
    Fallible.ok_bind,
    GtpUliECgi.codec.put_eq _ _ _ (by show uli.upToTai.length + 7 ≤ dataLen; omega),
    Fallible.ok_bind,
    GtpUliLai.codec.put_eq _ _ _ (by show uli.upToECgi.length + 5 ≤ dataLen; omega)]
  rfl

/-- Each part is found behind those in front of it. -/
theorem ogsGtpParseUli_octets (uli : GtpUli) :
    ogsGtpParseUli uli.octets = .ok (uli.parsed, uli.octets.length) := by
  have heCgi : uli.upToECgi <+: uli.octets := List.prefix_append _ _
  have htai : uli.upToTai <+: uli.octets := (List.prefix_append _ _).trans heCgi
  have hrai : uli.upToRai <+: uli.octets := (List.prefix_append _ _).trans htai
  have hsai : uli.upToSai <+: uli.octets := (List.prefix_append _ _).trans hrai
  have hcgi : uli.upToCgi <+: uli.octets := (List.prefix_append _ _).trans hsai
  have hflags : uli.upToFlags <+: uli.octets := (List.prefix_append _ _).trans hcgi
  have hhead : uli.octets.head? = some uli.flags.octet := by
    obtain ⟨rest, hrest⟩ := hflags
    rw [← hrest]
    rfl
  have hcgiTake : GtpUliCgi.codec.take uli.flags.cgi TypesSite.parseUli {} uli.octets 1 =
      .ok (uli.parsed.cgi, uli.upToCgi.length) := take_eq _ _ _ _ _ hcgi rfl
  have hsaiTake : GtpUliSai.codec.take uli.flags.sai TypesSite.parseUli {} uli.octets
      uli.upToCgi.length = .ok (uli.parsed.sai, uli.upToSai.length) := take_eq _ _ _ _ _ hsai rfl
  have hraiTake : GtpUliRai.codec.take uli.flags.rai TypesSite.parseUli {} uli.octets
      uli.upToSai.length = .ok (uli.parsed.rai, uli.upToRai.length) := take_eq _ _ _ _ _ hrai rfl
  have htaiTake : GtpUliTai.codec.take uli.flags.tai TypesSite.parseUli {} uli.octets
      uli.upToRai.length = .ok (uli.parsed.tai, uli.upToTai.length) := take_eq _ _ _ _ _ htai rfl
  have heCgiTake : GtpUliECgi.codec.take uli.flags.eCgi TypesSite.parseUli {} uli.octets
      uli.upToTai.length = .ok (uli.parsed.eCgi, uli.upToECgi.length) :=
    take_eq _ _ _ _ _ heCgi rfl
  have hlaiTake : GtpUliLai.codec.take uli.flags.lai TypesSite.parseUli {} uli.octets
      uli.upToECgi.length = .ok (uli.parsed.lai, uli.octets.length) :=
    take_eq _ _ _ _ _ (List.prefix_refl _) rfl
  rw [ogsGtpParseUli, hhead]
  simp only
  rw [hcgiTake, Fallible.ok_bind, hsaiTake, Fallible.ok_bind, hraiTake, Fallible.ok_bind, htaiTake,
    Fallible.ok_bind, heCgiTake, Fallible.ok_bind, hlaiTake, Fallible.ok_bind,
    Fallible.assert_of rfl]
  rfl

/-- What was built and parsed is the same in the flags and the parts that these announce. -/
structure GtpUli.Same (uli parsed : GtpUli) : Prop where
  flags : parsed.flags = uli.flags
  cgi : uli.flags.cgi = true → parsed.cgi = uli.cgi
  sai : uli.flags.sai = true → parsed.sai = uli.sai
  rai : uli.flags.rai = true → parsed.rai = uli.rai
  tai : uli.flags.tai = true → parsed.tai = uli.tai
  eCgi : uli.flags.eCgi = true → parsed.eCgi = uli.eCgi
  lai : uli.flags.lai = true → parsed.lai = uli.lai

theorem GtpUli.same_parsed (uli : GtpUli) : uli.Same uli.parsed where
  flags := rfl
  cgi := fun h => if_pos h
  sai := fun h => if_pos h
  rai := fun h => if_pos h
  tai := fun h => if_pos h
  eCgi := fun h => if_pos h
  lai := fun h => if_pos h

/-! ## Bearer QoS -/

/-- `ogs_gtp_bearer_qos_t` -/
structure GtpBearerQos where
  spare1 : Fin 2
  preEmptionCapability : Fin 2
  priorityLevel : Fin 16
  spare2 : Fin 2
  preEmptionVulnerability : Fin 2
  qci : UInt8
  ulMbr : UInt64
  dlMbr : UInt64
  ulGbr : UInt64
  dlGbr : UInt64
  deriving DecidableEq, Repr

/-- `GTP_BEARER_QOS_LEN` -/
def gtpBearerQosLen : Nat := 22

namespace GtpBearerQos
variable (qos : GtpBearerQos)

/-- The first octet of the structure in memory -/
def firstOctet : UInt8 :=
  UInt8.ofNat (qos.spare1 * 2 ^ 7 + qos.preEmptionCapability * 2 ^ 6 + qos.priorityLevel * 2 ^ 2 +
    qos.spare2 * 2 + qos.preEmptionVulnerability)

/-- The rates can be written with five octets. -/
def RatesFit : Prop :=
  qos.ulMbr.toNat < 2 ^ 40 ∧ qos.dlMbr.toNat < 2 ^ 40 ∧ qos.ulGbr.toNat < 2 ^ 40 ∧
    qos.dlGbr.toNat < 2 ^ 40

instance : Decidable qos.RatesFit := inferInstanceAs (Decidable (_ ∧ _))

end GtpBearerQos

/-- `ogs_uint64_to_buffer(rate, 5, ..)` -/
def gtpRateOctets [OgsConv] (rate : UInt64) : Bytes := (OgsConv.uint64ToBuffer rate 5).toList

/-- `ogs_buffer_to_uint64(.., 5)` -/
def gtpRate [OgsConv] (octet : Bytes) (size : Nat) : UInt64 :=
  OgsConv.bufferToUint64 ((octet.drop size).take 5)

/-- The fields that are taken out of the octets: spare bits are not. -/
def gtpBearerQosFields [OgsConv] (octet : Bytes) : GtpBearerQos :=
  let source := (octet.getD 0 0).toNat
  { spare1 := 0
    preEmptionCapability := Fin.ofNat 2 (source / 2 ^ 6)
    priorityLevel := Fin.ofNat 16 (source / 2 ^ 2)
    spare2 := 0
    preEmptionVulnerability := Fin.ofNat 2 source
    qci := octet.getD 1 0
    ulMbr := gtpRate octet 2
    dlMbr := gtpRate octet 7
    ulGbr := gtpRate octet 12
    dlGbr := gtpRate octet 17 }

def ogsGtpParseBearerQos [OgsConv] (octet : Bytes) : TypesM (GtpBearerQos × Nat) := do
  Fallible.assert .parseBearerQos (octet.length = gtpBearerQosLen)
  let size := 1 + 1 + 5 + 5 + 5 + 5
  Fallible.assert .parseBearerQos (size = octet.length)
  .ok (gtpBearerQosFields octet, size)

/-- The octets are written to a buffer of `dataLen` octets. -/
def ogsGtpBuildBearerQos [OgsConv] (qos : GtpBearerQos) (dataLen : Nat) : TypesM Bytes := do
  Fallible.assert .buildBearerQos (gtpBearerQosLen ≤ dataLen)
  .ok ([qos.firstOctet, qos.qci] ++ gtpRateOctets qos.ulMbr ++ gtpRateOctets qos.dlMbr ++
    gtpRateOctets qos.ulGbr ++ gtpRateOctets qos.dlGbr)

/-- A rate is read where it was written. -/
theorem gtpRate_append [OgsConv] {rate : UInt64} (h : rate.toNat < 2 ^ 40) {front octet : Bytes}
    {size : Nat} (hoctet : front ++ gtpRateOctets rate <+: octet) (hsize : front.length = size) :
    gtpRate octet size = rate := by
  obtain ⟨rest, rfl⟩ := hoctet
  have hlength : (gtpRateOctets rate).length = 5 := Vector.length_toList
  have hread : ((front ++ gtpRateOctets rate ++ rest).drop size).take 5 = gtpRateOctets rate := by
    rw [List.append_assoc, ← hsize, List.drop_left, ← hlength, List.take_left]
  apply UInt64.toNat_inj.mp
  rw [gtpRate, hread, OgsConv.toNat_bufferToUint64 _ (by omega), gtpRateOctets,
    OgsConv.value_uint64ToBuffer]
  omega

/-- What was built and parsed is the same in the QCI, the ARP and the rates. -/
structure GtpBearerQos.Same (qos parsed : GtpBearerQos) : Prop where
  qci : parsed.qci = qos.qci
  preEmptionCapability : parsed.preEmptionCapability = qos.preEmptionCapability
  priorityLevel : parsed.priorityLevel = qos.priorityLevel
  preEmptionVulnerability : parsed.preEmptionVulnerability = qos.preEmptionVulnerability
  ulMbr : parsed.ulMbr = qos.ulMbr
  dlMbr : parsed.dlMbr = qos.dlMbr
  ulGbr : parsed.ulGbr = qos.ulGbr
  dlGbr : parsed.dlGbr = qos.dlGbr

/-- The fields of the first octet -/
theorem GtpBearerQos.arp_firstOctet (qos : GtpBearerQos) :
    Fin.ofNat 2 (qos.firstOctet.toNat / 2 ^ 6) = qos.preEmptionCapability ∧
    Fin.ofNat 16 (qos.firstOctet.toNat / 2 ^ 2) = qos.priorityLevel ∧
    Fin.ofNat 2 qos.firstOctet.toNat = qos.preEmptionVulnerability := by
  have hspare1 := qos.spare1.isLt
  have hcapability := qos.preEmptionCapability.isLt
  have hlevel := qos.priorityLevel.isLt
  have hspare2 := qos.spare2.isLt
  have hvulnerability := qos.preEmptionVulnerability.isLt
  simp only [Fin.ext_iff, Fin.val_ofNat, GtpBearerQos.firstOctet, UInt8.toNat_ofNat']
  omega

theorem ogsGtpBearerQos_parse [OgsConv] {qos : GtpBearerQos} (hrates : qos.RatesFit) {dataLen : Nat}
    (hlen : gtpBearerQosLen ≤ dataLen) :
    ∃ octet parsed, ogsGtpBuildBearerQos qos dataLen = .ok octet ∧
      ogsGtpParseBearerQos octet = .ok (parsed, octet.length) ∧ qos.Same parsed := by
  obtain ⟨hulMbr, hdlMbr, hulGbr, hdlGbr⟩ := hrates
  have hrate (rate : UInt64) : (gtpRateOctets rate).length = 5 := Vector.length_toList
  let arp := [qos.firstOctet, qos.qci]
  let upToUlMbr := arp ++ gtpRateOctets qos.ulMbr
  let upToDlMbr := upToUlMbr ++ gtpRateOctets qos.dlMbr
  let upToUlGbr := upToDlMbr ++ gtpRateOctets qos.ulGbr
  let octet := upToUlGbr ++ gtpRateOctets qos.dlGbr
  have hulGbrPrefix : upToUlGbr <+: octet := List.prefix_append _ _
  have hdlMbrPrefix : upToDlMbr <+: octet := (List.prefix_append _ _).trans hulGbrPrefix
  have hulMbrPrefix : upToUlMbr <+: octet := (List.prefix_append _ _).trans hdlMbrPrefix
  have hulMbrLength : upToUlMbr.length = 7 := by
    simp only [upToUlMbr, arp, List.length_append, List.length_cons, List.length_nil, hrate]
  have hdlMbrLength : upToDlMbr.length = 12 := by
    simp only [upToDlMbr, List.length_append, hulMbrLength, hrate]
  have hulGbrLength : upToUlGbr.length = 17 := by
    simp only [upToUlGbr, List.length_append, hdlMbrLength, hrate]
  have hlength : octet.length = gtpBearerQosLen := by
    simp only [octet, List.length_append, hulGbrLength, hrate, gtpBearerQosLen]
  have hbuild : ogsGtpBuildBearerQos qos dataLen = .ok octet := by
    rw [ogsGtpBuildBearerQos, Fallible.assert_of hlen, Fallible.ok_bind]
  obtain ⟨hcapability, hlevel, hvulnerability⟩ := qos.arp_firstOctet
  refine ⟨octet, gtpBearerQosFields octet, hbuild, ?_, ?_⟩
  · have hsize : 1 + 1 + 5 + 5 + 5 + 5 = octet.length := hlength.symm
    rw [ogsGtpParseBearerQos, Fallible.assert_of hlength, Fallible.ok_bind]
    simp only
    rw [Fallible.assert_of hsize, Fallible.ok_bind, hlength]
    rfl
  · exact {
      qci := rfl
      preEmptionCapability := hcapability
      priorityLevel := hlevel
      preEmptionVulnerability := hvulnerability
      ulMbr := gtpRate_append hulMbr hulMbrPrefix rfl
      dlMbr := gtpRate_append hdlMbr hdlMbrPrefix hulMbrLength
      ulGbr := gtpRate_append hulGbr hulGbrPrefix hdlMbrLength
      dlGbr := gtpRate_append hdlGbr (List.prefix_refl _) hulGbrLength }

/-! ## Both -/

theorem ogsGtpTypes_roundtrip [OgsConv] :
    (∀ (uli : GtpUli) (dataLen : Nat), ogsGtpMaxUliLen ≤ dataLen →
      ∃ octet parsed, ogsGtpBuildUli uli dataLen = .ok octet ∧
        ogsGtpParseUli octet = .ok (parsed, octet.length) ∧ uli.Same parsed) ∧
    (∀ (qos : GtpBearerQos) (dataLen : Nat), gtpBearerQosLen ≤ dataLen → qos.RatesFit →
      ∃ octet parsed, ogsGtpBuildBearerQos qos dataLen = .ok octet ∧
        ogsGtpParseBearerQos octet = .ok (parsed, octet.length) ∧ qos.Same parsed) := by
  constructor
  · intro uli dataLen hlen
    exact ⟨uli.octets, uli.parsed, ogsGtpBuildUli_eq uli hlen, ogsGtpParseUli_octets uli,
      uli.same_parsed⟩
  · intro qos dataLen hlen hrates
    exact ogsGtpBearerQos_parse hrates hlen

attribute [local instance] OgsConv.reference

/-- The values that `gtp-message-test.c` puts into a Create Session Request -/
def createSessionUli : GtpUli where
  flags := ⟨0x18⟩
  tai := ⟨#v[0x55, 0xf5, 0x01], 4130⟩
  eCgi := ⟨#v[0x55, 0xf5, 0x01], 105729⟩

def createSessionQos : GtpBearerQos where
  spare1 := 0
  preEmptionCapability := 1
  priorityLevel := 1
  spare2 := 0
  preEmptionVulnerability := 1
  qci := 5
  ulMbr := 0
  dlMbr := 0
  ulGbr := 0
  dlGbr := 0

example : ogsGtpBuildUli createSessionUli ogsGtpMaxUliLen =
    .ok [0x18, 0x55, 0xf5, 0x01, 0x10, 0x22, 0x55, 0xf5, 0x01, 0x00, 0x01, 0x9d, 0x01] := by
  decide

example : ogsGtpBuildBearerQos createSessionQos gtpBearerQosLen =
    .ok (0x45 :: 0x05 :: List.replicate 20 0) := by
  decide

theorem ogsGtpTypes_roundtrip_createSession :
    (∃ octet parsed, ogsGtpBuildUli createSessionUli ogsGtpMaxUliLen = .ok octet ∧
      ogsGtpParseUli octet = .ok (parsed, octet.length) ∧ createSessionUli.Same parsed) ∧
    (∃ octet parsed, ogsGtpBuildBearerQos createSessionQos gtpBearerQosLen = .ok octet ∧
      ogsGtpParseBearerQos octet = .ok (parsed, octet.length) ∧ createSessionQos.Same parsed) :=
  ⟨ogsGtpTypes_roundtrip.1 createSessionUli ogsGtpMaxUliLen le_rfl,
    ogsGtpTypes_roundtrip.2 createSessionQos gtpBearerQosLen le_rfl (by decide)⟩

end NextEpc

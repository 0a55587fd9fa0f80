import NextEpc.Mme.Context

/-!
# NAS security

`nas-security.c` and the header stripping of `s1ap_send_to_nas`. A security protected
message is the octet with the header type, four octets of message authentication code, the
sequence number and the message; the code covers what follows it. A Service Request has a
form of its own with the last two octets of the code at its end.

The plain encoding of a message is made by generated code and is part of the message.
-/

namespace NextEpc

namespace NasSecurityHeader

def plainNasMessage : UInt8 := 0

@[match_pattern] def integrityProtected : UInt8 := 1

@[match_pattern] def integrityProtectedAndCiphered : UInt8 := 2

@[match_pattern] def integrityProtectedAndNewSecurityContext : UInt8 := 3

@[match_pattern] def integrityProtectedAndCiphterdWithNewIntegrityContext : UInt8 := 4

def forServiceRequestMessage : UInt8 := 12

end NasSecurityHeader

/-- `nas_security_header_type_t` -/
structure NasSecurityHeaderType where
  integrityProtected : Bool := false
  ciphered : Bool := false
  newSecurityContext : Bool := false
  serviceRequest : Bool := false
  deriving DecidableEq, Repr

/-- `ogs_nas_message_t` with its plain encoding -/
structure NasMessage where
  securityHeaderType : UInt8
  protocolDiscriminator : UInt8
  plain : Bytes
  deriving DecidableEq, Repr

/-- `OGS_NAS_HEADROOM` -/
def nasHeadroom : Nat := 16

/-- `NAS_SECURITY_BEARER` -/
def nasSecurityBearer : UInt8 := 0

/-- `NAS_SECURITY_DOWNLINK_DIRECTION` -/
def nasSecurityDownlinkDirection : UInt8 := 1

/-- `NAS_SECURITY_UPLINK_DIRECTION` -/
def nasSecurityUplinkDirection : UInt8 := 0

/-- What the header types of protected messages ask for, the same in both directions. -/
def nasProtectedHeaderType (securityHeaderType : UInt8) : Option NasSecurityHeaderType :=
  match securityHeaderType with
  | NasSecurityHeader.integrityProtected => some { integrityProtected := true }
  | NasSecurityHeader.integrityProtectedAndCiphered =>
    some { integrityProtected := true, ciphered := true }
  | NasSecurityHeader.integrityProtectedAndNewSecurityContext =>
    some { integrityProtected := true, newSecurityContext := true }
  | NasSecurityHeader.integrityProtectedAndCiphterdWithNewIntegrityContext =>
    some { integrityProtected := true, ciphered := true, newSecurityContext := true }
  | _ => none

section
variable [OgsCrypt]

/-! ## Algorithms -/

/-- The counter block of EIA2 and of EEA2, without its trailing zeros. -/
def nasIvec (count : UInt32) (bearer direction : UInt8) : Bytes :=
  (Octets.htonl count).toList ++ [(bearer <<< 3) ||| (direction <<< 2), 0, 0, 0]

/-- EIA2 makes room for the counter block in the headroom and leaves it there. With EIA0
nothing is written to `mac`, which is given here as the last argument. -/
def nasMacCalculate (algorithmIdentity : UInt8) (knasInt : Octets16) (count : UInt32)
    (bearer direction : UInt8) (pkbuf : Pkbuf) (mac : Octets4) : MmeM (Pkbuf × Octets4) := do
  Fallible.assert .nasMacCalculate (pkbuf.data ≠ [])
  match algorithmIdentity with
  | 1 => .ok (pkbuf, OgsCrypt.snow3gF9 knasInt count (bearer.toUInt32 <<< 27) direction pkbuf.data)
  | 2 => match pkbuf.push 8 with
    | none => .error .outOfBounds
    | some pushed =>
      let block := pushed.write (nasIvec count bearer direction)
      let cmac := OgsCrypt.aesCmac knasInt block.data
      match block.pull 8 with
      | none => .error .outOfBounds
      | some pulled => .ok (pulled, cmac.take 4)
  | 3 =>
    let mac32 := OgsCrypt.zucEia3 knasInt count bearer direction pkbuf.data
    .ok (pkbuf, Octets.htonl mac32)
  | 0 => .ok (pkbuf, mac)
  | _ => .error (.assert .nasMacCalculate)

/-- The key stream of the ciphering algorithms, if there is one. -/
def nasKeyStream (algorithmIdentity : UInt8) (knasEnc : Octets16) (count : UInt32)
    (bearer direction : UInt8) : MmeM (Option (Nat → UInt8)) :=
  match algorithmIdentity with
  | 1 => .ok (some (OgsCrypt.snow3gF8 knasEnc count bearer direction))
  | 2 =>
    let ivec := Octets.htonl count ++
      #v[(bearer <<< 3) ||| (direction <<< 2), 0, 0, 0, 0, 0, 0, 0, 0, 0, 0, 0]
    .ok (some (OgsCrypt.aesCtr128 knasEnc ivec))
  | 3 => .ok (some (OgsCrypt.zucEea3 knasEnc count bearer direction))
  | 0 => .ok none
  | _ => .error (.assert .nasEncrypt)

def nasEncrypt (algorithmIdentity : UInt8) (knasEnc : Octets16) (count : UInt32)
    (bearer direction : UInt8) (pkbuf : Pkbuf) : MmeM Pkbuf := do
  Fallible.assert .nasEncrypt (pkbuf.data ≠ [])
  match ← nasKeyStream algorithmIdentity knasEnc count bearer direction with
  | some stream => .ok { pkbuf with data := Octets.xorStream stream pkbuf.data }
  | none => .ok pkbuf

/-! ## Downlink -/

/-- Nothing is ciphered or authenticated by a null algorithm. -/
def NasSecurityHeaderType.select (type : NasSecurityHeaderType) (ue : MmeUe) :
    NasSecurityHeaderType :=
  { type with
    ciphered := type.ciphered && ue.selectedEncAlgorithm != 0
    integrityProtected := type.integrityProtected && ue.selectedIntAlgorithm != 0 }

/-- The protected part of `nas_security_encode`: the message is ciphered, the sequence
number put in front of it and both authenticated with the same `dl_count`. -/
def nasSecurityProtect (ue : MmeUe) (type : NasSecurityHeaderType) (message : NasMessage) :
    MmeM (MmeUe × Pkbuf) := do
  let sequenceNumber := UInt8.ofNat ue.dlCount.toNat
  let new := Pkbuf.alloc nasHeadroom message.plain
  let new ← if type.ciphered then
      nasEncrypt ue.selectedEncAlgorithm ue.knasEnc ue.dlCount nasSecurityBearer
        nasSecurityDownlinkDirection new
    else .ok new
  let new ← Fallible.assertSome .nasSecurityEncode (new.push 1)
  let new := new.write [sequenceNumber]
  let (new, mac) ← if type.integrityProtected then
      nasMacCalculate ue.selectedIntAlgorithm ue.knasInt ue.dlCount nasSecurityBearer
        nasSecurityDownlinkDirection new (Vector.replicate 4 0)
    else .ok (new, Vector.replicate 4 0)
  let new ← Fallible.assertSome .nasSecurityEncode (new.push 5)
  let header := message.securityHeaderType <<< 4 ||| message.protocolDiscriminator &&& 0x0f
  .ok ({ ue with
      dlCount := (ue.dlCount + 1) &&& 0xffffff
      securityContextAvailable := true },
    new.write ([header] ++ mac.toList ++ [sequenceNumber]))

/-- The result is `*pkbuf` as the call leaves it, when it was null before. -/
def nasSecurityEncode (ue : MmeUe) (message : NasMessage) :
    MmeM (MmeUe × Option Pkbuf × Rv) := do
  if message.securityHeaderType = NasSecurityHeader.plainNasMessage then
    .ok (ue, some (Pkbuf.alloc nasHeadroom message.plain), .ok)
  else match nasProtectedHeaderType message.securityHeaderType with
  | none => .ok (ue, none, .error)
  | some type =>
    let ue := if type.newSecurityContext then { ue with dlCount := 0, ulCount := .zero } else ue
    let type := type.select ue
    if type.ciphered ∨ type.integrityProtected then
      let (ue, new) ← nasSecurityProtect ue type message
      .ok (ue, some new, .ok)
    else .ok (ue, none, .ok)

/-! ## Uplink -/

/-- The count of a message whose sequence number is given in full. -/
def UlCount.next (count : UlCount) (sequenceNumber : UInt8) : UlCount :=
  { overflow := if sequenceNumber < count.sqn then count.overflow + 1 else count.overflow
    sqn := sequenceNumber }

/-- The sequence number of which a Service Request gives the last five bits. -/
def UlCount.estimatedSequenceNumber (count : UlCount) (sequenceNumber : UInt8) : UInt8 :=
  let high := count.sqn &&& 0xe0
  let high := if sequenceNumber < count.sqn &&& 0x1f then high + 0x20 else high
  sequenceNumber + high

/-- The first six octets of a protected message. -/
structure NasSecurityHeaderOctets where
  type : UInt8
  messageAuthenticationCode : Octets4
  sequenceNumber : UInt8
  deriving DecidableEq, Repr

def NasSecurityHeaderOctets.read : Bytes → MmeM NasSecurityHeaderOctets
  | type :: m0 :: m1 :: m2 :: m3 :: sequenceNumber :: _ =>
    .ok ⟨type, #v[m0, m1, m2, m3], sequenceNumber⟩
  | _ => .error .outOfBounds

/-- The branch of `nas_security_decode` for a Service Request. -/
def nasSecurityDecodeServiceRequest (ue : MmeUe) (pkbuf : Pkbuf) :
    MmeM (MmeUe × Pkbuf × Rv) := do
  if ue.selectedIntAlgorithm = 0 then .ok (ue, pkbuf, .error)
  else match pkbuf.data with
  | _ :: ksiAndSequenceNumber :: m0 :: m1 :: _ =>
    let sequenceNumber := ue.ulCount.estimatedSequenceNumber (ksiAndSequenceNumber &&& 0x1f)
    let ue := { ue with ulCount := ue.ulCount.next sequenceNumber }
    let (pkbuf, mac) ← nasMacCalculate ue.selectedIntAlgorithm ue.knasInt ue.ulCount.i32
      nasSecurityBearer nasSecurityUplinkDirection (pkbuf.trim 2) (Vector.replicate 4 0)
    let pkbuf := pkbuf.putData [m0, m1]
    let ue := if mac.toList.drop 2 ≠ [m0, m1] then { ue with macFailed := true } else ue
    .ok (ue, pkbuf, .ok)
  | _ => .error .outOfBounds

/-- Without a security context a protected message is taken as it is. -/
def NasSecurityHeaderType.available (type : NasSecurityHeaderType) (ue : MmeUe) :
    NasSecurityHeaderType :=
  if ue.securityContextAvailable then type
  else { type with integrityProtected := false, newSecurityContext := false, ciphered := false }

/-- The end of `nas_security_decode`, with the buffer at the sequence number. -/
def nasSecurityUnprotect (ue : MmeUe) (type : NasSecurityHeaderType)
    (h : NasSecurityHeaderOctets) (pkbuf : Pkbuf) : MmeM (MmeUe × Pkbuf) := do
  let (ue, pkbuf) ← if type.integrityProtected then do
      let (pkbuf, mac) ← nasMacCalculate ue.selectedIntAlgorithm ue.knasInt ue.ulCount.i32
        nasSecurityBearer nasSecurityUplinkDirection pkbuf (Vector.replicate 4 0)
      let pkbuf := pkbuf.writeBefore h.messageAuthenticationCode.toList
      let ue := if h.messageAuthenticationCode ≠ mac then { ue with macFailed := true } else ue
      .ok (ue, pkbuf)
    else .ok (ue, pkbuf)
  let pkbuf ← Fallible.assertSome .nasSecurityDecode (pkbuf.pull 1)
  let pkbuf ← if type.ciphered then
      nasEncrypt ue.selectedEncAlgorithm ue.knasEnc ue.ulCount.i32 nasSecurityBearer
        nasSecurityUplinkDirection pkbuf
    else .ok pkbuf
  .ok (ue, pkbuf)

def nasSecurityDecode (ue : MmeUe) (type : NasSecurityHeaderType) (pkbuf : Pkbuf) :
    MmeM (MmeUe × Pkbuf × Rv) := do
  if type.serviceRequest then nasSecurityDecodeServiceRequest ue pkbuf
  else
    let type := type.available ue
    let ue := if type.newSecurityContext then { ue with ulCount := .zero } else ue
    let type := type.select ue
    if type.ciphered ∨ type.integrityProtected then
      let pkbuf ← Fallible.assertSome .nasSecurityDecode (pkbuf.push 6)
      let h ← NasSecurityHeaderOctets.read pkbuf.data
      let pkbuf ← Fallible.assertSome .nasSecurityDecode (pkbuf.pull 5)
      let ue := { ue with ulCount := ue.ulCount.next h.sequenceNumber }
      let (ue, pkbuf) ← nasSecurityUnprotect ue type h pkbuf
      .ok (ue, pkbuf, .ok)
    else .ok (ue, pkbuf, .ok)

/-! ## The header of a received PDU -/

/-- The first part of `s1ap_send_to_nas`: what the header type says, and the buffer behind
the security header. -/
def s1apStripSecurityHeader (nasPdu : Bytes) : MmeM (Option (NasSecurityHeaderType × Pkbuf)) := do
  let nasbuf := Pkbuf.alloc nasHeadroom nasPdu
  match nasPdu with
  | [] => .error .outOfBounds
  | sh :: _ =>
    if sh >>> 4 = NasSecurityHeader.plainNasMessage then .ok (some ({}, nasbuf))
    else if sh >>> 4 = NasSecurityHeader.forServiceRequestMessage then
      .ok (some ({ serviceRequest := true }, nasbuf))
    else match nasProtectedHeaderType (sh >>> 4) with
    | some type => do
      let nasbuf ← Fallible.assertSome .s1apSendToNas (nasbuf.pull 6)
      .ok (some (type, nasbuf))
    | none => .ok none

end

end NextEpc

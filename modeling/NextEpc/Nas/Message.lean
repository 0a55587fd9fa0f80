import NextEpc.Nas.IeWire
import NextEpc.Nas.MessageType

/-!
# Encoding and decoding NAS messages

The decoder pulls a message octet by octet, element by element, and pushes back what it has pulled.
The encoder pulls over a buffer that is as long as the core library allows. A service request has a
security header type instead of a message type, so the octet of the latter is its first.
-/

namespace NextEpc
open Fallible

/-- The elements of a message, those with a tag by their tag, if they are present -/
structure NasBody where
  mandatory : List NasRecord
  optional : UInt8 → Option NasRecord

/-- `ogs_nas_emm_header_t`, with the security header type and the protocol discriminator in
`first` -/
structure EmmHeader where
  first : UInt8
  messageType : UInt8
  deriving DecidableEq, Repr

/-- `ogs_nas_esm_header_t` -/
structure EsmHeader where
  first : UInt8
  procedureTransactionIdentity : UInt8
  messageType : UInt8
  deriving DecidableEq, Repr

namespace EmmHeader

def securityHeaderType (h : EmmHeader) : UInt8 := h.first >>> 4

/-- `security_header_type >= OGS_NAS_SECURITY_HEADER_FOR_SERVICE_REQUEST_MESSAGE` -/
def IsServiceRequest (h : EmmHeader) : Prop := 12 ≤ h.securityHeaderType

instance (h : EmmHeader) : Decidable h.IsServiceRequest := inferInstanceAs (Decidable (_ ≤ _))

def octets (h : EmmHeader) : Bytes := [h.first, h.messageType]

end EmmHeader

namespace EsmHeader

def octets (h : EsmHeader) : Bytes := [h.first, h.procedureTransactionIdentity, h.messageType]

end EsmHeader

/-- `message->emm` -/
structure NasEmmMessage where
  h : EmmHeader
  body : NasBody

/-- `message->esm` -/
structure NasEsmMessage where
  h : EsmHeader
  body : NasBody

/-- A message that has been set to zero -/
def NasBody.none : NasBody := ⟨[], fun _ => Option.none⟩

/-- `OGS_NAS_HEADROOM` -/
def ogsNasHeadroom : Nat := 16

/-- The octets that the encoder may pull -/
def nasCap [OgsNas] : Nat := OgsNas.maxSduLen - ogsNasHeadroom

namespace NasMessageType
variable [OgsNas] (t : NasMessageType)

/-! ## Decoding -/

/-- The elements that are always there -/
def decodeMandatory : List NasIe → Pkbuf → NasM (List NasRecord × Pkbuf × Nat)
  | [], pkbuf => .ok ([], pkbuf, 0)
  | ie :: ies, pkbuf => do
    let (record, pkbuf, size) ← ie.decode none pkbuf
    let (records, pkbuf, decoded) ← decodeMandatory ies pkbuf
    .ok (record :: records, pkbuf, size + decoded)

/-- The loop over the elements with a tag, while there is data -/
def decodeOptional : (fuel : Nat) → Pkbuf → (UInt8 → Option NasRecord) → (decoded : Nat) →
    NasM ((UInt8 → Option NasRecord) × Pkbuf × Nat)
  | 0, pkbuf, m, decoded => .ok (m, pkbuf, decoded)
  | fuel + 1, pkbuf, m, decoded =>
    match pkbuf.data with
    | [] => .ok (m, pkbuf, decoded)
    | octet :: _ => do
      let type := nasTag octet
      let pkbuf ← assertSome .pull (pkbuf.pull 1)
      match t.optional.lookup type with
      | none => decodeOptional fuel pkbuf m (decoded + 1)
      | some ie => do
        let (record, pkbuf, size) ← ie.decode (m type) pkbuf
        decodeOptional fuel pkbuf (Function.update m type (some record)) (decoded + 1 + size)

/-- A function of the decoder. It has no loop if there are no elements with a tag. -/
def decode (pkbuf : Pkbuf) : NasM (NasBody × Pkbuf × Nat) := do
  let (mandatory, pkbuf, decoded) ← decodeMandatory t.mandatory pkbuf
  if t.optional = [] then .ok (⟨mandatory, fun _ => none⟩, pkbuf, decoded)
  else do
    let (optional, pkbuf, decoded) ←
      t.decodeOptional pkbuf.data.length pkbuf (fun _ => none) decoded
    .ok (⟨mandatory, optional⟩, pkbuf, decoded)

/-! ## Encoding -/

/-- The elements that are always there -/
def encodeMandatory : List NasIe → List NasRecord → Bytes → NasM Bytes
  | [], _, pkbuf => .ok pkbuf
  | _ :: _, [], _ => .error .outOfBounds
  | ie :: ies, record :: records, pkbuf => do
    let pkbuf ← ie.encode nasCap record pkbuf
    encodeMandatory ies records pkbuf

/-- `record.type = TYPE >> 4` -/
def setType (tag : UInt8) : NasRecord → NasRecord
  | .octets image => .octets (setUpper 0 (tag >>> 4) image)
  | record => record

/-- An element with a tag, if it is present. `ogs_nas_encode_optional_type` writes the tag of those
that have octets of their own. -/
def encodeOptional (m : UInt8 → Option NasRecord) (pkbuf : Bytes) (e : UInt8 × NasIe) :
    NasM Bytes :=
  match m e.1 with
  | none => .ok pkbuf
  | some record =>
    if e.2.isHalf = true then e.2.encode nasCap (setType e.1 record) pkbuf
    else do
      let pkbuf ← putOctets nasCap [e.1] 1 pkbuf
      e.2.encode nasCap record pkbuf

/-- A function of the encoder -/
def encode (body : NasBody) (pkbuf : Bytes) : NasM Bytes := do
  let pkbuf ← encodeMandatory t.mandatory body.mandatory pkbuf
  t.optional.foldlM (encodeOptional body.optional) pkbuf

end NasMessageType

section
variable [OgsNas]

/-- `ogs_nas_emm_decode`. A message of another type is left as it was set to zero. -/
def ogsNasEmmDecode (pkbuf : Pkbuf) : NasM (NasEmmMessage × Pkbuf) := do
  assert .empty (pkbuf.data ≠ [])
  let pulled ← assertSome .pull (pkbuf.pull 2)
  let h : EmmHeader := ⟨pkbuf.data.getD 0 0, pkbuf.data.getD 1 0⟩
  if h.IsServiceRequest then do
    let pushed ← assertSome .push (pulled.push 1)
    let (body, pulled, decoded) ← NasMessageType.serviceRequest.decode pushed
    let pkbuf ← assertSome .push (pulled.push ((2 - 1 + decoded) % 2 ^ 16))
    .ok (⟨h, body⟩, pkbuf)
  else
    match emmReceived h.messageType with
    | none => do
      let pkbuf ← assertSome .push (pulled.push 2)
      .ok (⟨h, .none⟩, pkbuf)
    | some t => do
      let (body, pulled, decoded) ← t.decode pulled
      let pkbuf ← assertSome .push (pulled.push ((2 + decoded) % 2 ^ 16))
      .ok (⟨h, body⟩, pkbuf)

/-- `ogs_nas_esm_decode` -/
def ogsNasEsmDecode (pkbuf : Pkbuf) : NasM (NasEsmMessage × Pkbuf) := do
  assert .empty (pkbuf.data ≠ [])
  let pulled ← assertSome .pull (pkbuf.pull 3)
  let h : EsmHeader := ⟨pkbuf.data.getD 0 0, pkbuf.data.getD 1 0, pkbuf.data.getD 2 0⟩
  match esmType h.messageType with
  | none => do
    let pkbuf ← assertSome .push (pulled.push 3)
    .ok (⟨h, .none⟩, pkbuf)
  | some t => do
    let (body, pulled, decoded) ← t.decode pulled
    let pkbuf ← assertSome .push (pulled.push ((3 + decoded) % 2 ^ 16))
    .ok (⟨h, body⟩, pkbuf)

/-- `ogs_nas_emm_encode`, which returns `OGS_ERROR` for a message of another type -/
def ogsNasEmmEncode (message : NasEmmMessage) : NasM (Option Pkbuf) := do
  let pkbuf ← putOctets nasCap message.h.octets 2 []
  if message.h.IsServiceRequest then do
    let pkbuf ← NasMessageType.serviceRequest.encode message.body pkbuf.dropLast
    .ok (some (.alloc ogsNasHeadroom pkbuf))
  else
    match emmSent message.h.messageType with
    | none => .ok none
    | some t => do
      let pkbuf ← t.encode message.body pkbuf
      .ok (some (.alloc ogsNasHeadroom pkbuf))

/-- `ogs_nas_esm_encode` -/
def ogsNasEsmEncode (message : NasEsmMessage) : NasM (Option Pkbuf) := do
  let pkbuf ← putOctets nasCap message.h.octets 3 []
  match esmType message.h.messageType with
  | none => .ok none
  | some t => do
    let pkbuf ← t.encode message.body pkbuf
    .ok (some (.alloc ogsNasHeadroom pkbuf))

end

end NextEpc

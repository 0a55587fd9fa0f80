import NextEpc.Ogslib
import NextEpc.Lib.Pkbuf

/-!
# The UE context of the MME

The fields of `mme_ue_t` that the EMM procedures and NAS security use, the macros on them
and the calls into libraries that are not part of the repository: the cryptographic
functions of `ogs-crypt.h`.

The low octet of the union `ul_count` is the sequence number and the two octets above it
count its overflows. The highest octet is zero: it is written only by `ul_count.i32 = 0`.
-/

namespace NextEpc

/-- The places where the MME asserts. -/
inductive MmeSite
  | nasMacCalculate
  | nasEncrypt
  | nasSecurityEncode
  | nasSecurityDecode
  | s1apSendToNas
  | emmBuild
  | emmHandler
  | emmSm
  | esmHandler
  | nasPath
  | mmeSm
  | s6aHandler
  | s11Handler
  | s1apHandler
  | sgsapHandler
  | mmeContext
  deriving DecidableEq, Repr

abbrev MmeM := Fallible MmeSite

abbrev Octets32 := Vector UInt8 32

/-! ## Cryptographic functions -/

/-- The functions of `ogs-crypt.h`. The three stream ciphers are given by the key stream
that they combine with the data. -/
class OgsCrypt where
  /-- `snow_3g_f9(key, count, fresh, dir, data, length)` -/
  snow3gF9 : Octets16 → UInt32 → UInt32 → UInt8 → Bytes → Octets4
  /-- `ogs_aes_cmac_calculate(cmac, key, msg, len)` -/
  aesCmac : Octets16 → Bytes → Octets16
  /-- `zuc_eia3(key, count, bearer, direction, length, data, mac)` -/
  zucEia3 : Octets16 → UInt32 → UInt8 → UInt8 → Bytes → UInt32
  /-- `snow_3g_f8(key, count, bearer, dir, data, length)` -/
  snow3gF8 : Octets16 → UInt32 → UInt8 → UInt8 → Nat → UInt8
  /-- `ogs_aes_ctr128_encrypt(key, ivec, in, len, out)` -/
  aesCtr128 : Octets16 → Octets16 → Nat → UInt8
  /-- `zuc_eea3(key, count, bearer, direction, length, in, out)` -/
  zucEea3 : Octets16 → UInt32 → UInt8 → UInt8 → Nat → UInt8
  /-- `ogs_hmac_sha256(key, key_size, message, message_len, mac, mac_size)` -/
  hmacSha256 : Octets32 → Bytes → Octets32

/-- Functions that keep the key, the count and the message apart, for runs on concrete
inputs. -/
@[reducible] def OgsCrypt.reference : OgsCrypt where
  snow3gF9 key count _ _ _ := Octets.htonl (count ^^^ key[15].toUInt32)
  aesCmac key data :=
    (Vector.range 16).map fun i => (data.getD i 0 ^^^ key[15] : UInt8)
  zucEia3 key count _ _ _ := count ^^^ key[15].toUInt32
  snow3gF8 _ count _ _ i := UInt8.ofNat (count.toNat + i)
  aesCtr128 _ ivec i := ivec[3] + UInt8.ofNat i
  zucEea3 _ count _ _ i := UInt8.ofNat (count.toNat + i)
  hmacSha256 key data :=
    (Vector.range 32).map fun i => ((key.toList ++ data).getD i 0 ^^^ data.getD i 0 : UInt8)

/-! ## Fields of the context -/

/-- `ul_count` -/
structure UlCount where
  overflow : UInt16
  sqn : UInt8
  deriving DecidableEq, Repr

/-- The 24-bit uplink NAS COUNT. -/
def UlCount.toNat (count : UlCount) : Nat := count.overflow.toNat * 256 + count.sqn.toNat

/-- `ul_count.i32` -/
def UlCount.i32 (count : UlCount) : UInt32 := UInt32.ofNat count.toNat

/-- `ul_count.i32 = 0` -/
def UlCount.zero : UlCount := ⟨0, 0⟩

inductive EmmState
  | deRegistered
  | authentication
  | securityMode
  | initialContextSetup
  | registered
  | exception
  deriving DecidableEq, Repr

/-- `nas_eps.type`, zero before the first request. -/
inductive MmeEpsType
  | none
  | attachRequest
  | tauRequest
  | serviceRequest
  | extendedServiceRequest
  | detachRequestFromUe
  deriving DecidableEq, Repr

/-- `OGS_NAS_KSI_NO_KEY_IS_AVAILABLE` -/
def nasKsiNoKeyIsAvailable : UInt8 := 7

/-- `nas_eps`. The attach, update, service and detach types share one octet. -/
structure NasEps where
  type : MmeEpsType := .none
  ksi : UInt8 := 0
  data : UInt8 := 0
  deriving DecidableEq, Repr

/-- `nas_eps.update.active_flag` -/
def NasEps.activeFlag (nasEps : NasEps) : Bool := nasEps.data &&& 0x08 != 0

/-- `nas_eps.detach.switch_off` -/
def NasEps.switchOff (nasEps : NasEps) : Bool := nasEps.data &&& 0x08 != 0

/-- `nas_eps.service.service_type` -/
def NasEps.serviceType (nasEps : NasEps) : UInt8 := nasEps.data &&& 0x0f

/-- The key set identifier in the octet of an attach, update, service or detach type. -/
def nasKeySetIdentifier (data : UInt8) : UInt8 := data >>> 4 &&& 0x07

/-- A retransmission timer with the message it sends again. -/
structure MmeTimer (α : Type) where
  pkbuf : Option α := none
  retryCount : Nat := 0
  deriving DecidableEq, Repr

/-- `CLEAR_MME_UE_TIMER` -/
def MmeTimer.clear {α : Type} : MmeTimer α := {}

abbrev EnbUeId := Nat

/-- The message saved under T3460. -/
inductive T3460Message
  | authenticationRequest (rand autn : Octets16)
  | securityModeCommand (pdu : Bytes)
  deriving DecidableEq, Repr

structure MmeUe where
  sm : EmmState
  nasEps : NasEps
  imsiLen : Nat
  securityContextAvailable : Bool
  macFailed : Bool
  eea : UInt8
  eia : UInt8
  xres : Octets16
  xresLen : UInt8
  kasme : Octets32
  rand : Octets16
  knasInt : Octets16
  knasEnc : Octets16
  dlCount : UInt32
  ulCount : UlCount
  kenb : Octets32
  nhcc : Nat
  nh : Octets32
  selectedEncAlgorithm : UInt8
  selectedIntAlgorithm : UInt8
  sgwS11Teid : UInt32
  sessionContextWillDeleted : Bool
  enbUe : Option EnbUeId
  pdnConnectivityRequest : Bytes
  /-- The Initial Context Setup Request with the Attach Accept: its `KeNB`. -/
  t3450 : MmeTimer Octets32
  t3460 : MmeTimer T3460Message
  /-- The Identity Request. -/
  t3470 : MmeTimer Unit
  deriving DecidableEq

namespace MmeUe

/-- The memory of a context that has not been used before. -/
def zero : MmeUe where
  sm := .deRegistered
  nasEps := {}
  imsiLen := 0
  securityContextAvailable := false
  macFailed := false
  eea := 0
  eia := 0
  xres := Vector.replicate 16 0
  xresLen := 0
  kasme := Vector.replicate 32 0
  rand := Vector.replicate 16 0
  knasInt := Vector.replicate 16 0
  knasEnc := Vector.replicate 16 0
  dlCount := 0
  ulCount := .zero
  kenb := Vector.replicate 32 0
  nhcc := 0
  nh := Vector.replicate 32 0
  selectedEncAlgorithm := 0
  selectedIntAlgorithm := 0
  sgwS11Teid := 0
  sessionContextWillDeleted := false
  enbUe := none
  pdnConnectivityRequest := []
  t3450 := .clear
  t3460 := .clear
  t3470 := .clear

variable (ue : MmeUe)

/-- `SECURITY_CONTEXT_IS_VALID` -/
def SecurityContextIsValid : Prop :=
  ue.securityContextAvailable = true ∧ ue.macFailed = false ∧
    ue.nasEps.ksi ≠ nasKsiNoKeyIsAvailable

instance : Decidable ue.SecurityContextIsValid :=
  inferInstanceAs (Decidable (_ ∧ _ ∧ _))

/-- `CLEAR_SECURITY_CONTEXT` -/
def clearSecurityContext : MmeUe :=
  { ue with
    securityContextAvailable := false
    macFailed := false
    nasEps := { ue.nasEps with ksi := 0 } }

/-- `CLEAR_MME_UE_ALL_TIMERS` -/
def clearAllTimers : MmeUe :=
  { ue with t3450 := .clear, t3460 := .clear, t3470 := .clear }

/-- `MME_UE_HAVE_IMSI` -/
def HaveImsi : Prop := ue.imsiLen ≠ 0

instance : Decidable ue.HaveImsi := inferInstanceAs (Decidable (ue.imsiLen ≠ 0))

/-- `SESSION_CONTEXT_IS_AVAILABLE` -/
def SessionContextIsAvailable : Prop := ue.sgwS11Teid ≠ 0

instance : Decidable ue.SessionContextIsAvailable :=
  inferInstanceAs (Decidable (ue.sgwS11Teid ≠ 0))

end MmeUe

/-! ## Key derivation -/

section
variable [OgsCrypt]

/-- `MME_KDF_NAS_ENC_ALG` -/
def mmeKdfNasEncAlg : UInt8 := 0x01

/-- `MME_KDF_NAS_INT_ALG` -/
def mmeKdfNasIntAlg : UInt8 := 0x02

def mmeKdfNas (distinguisher identity : UInt8) (kasme : Octets32) : Octets16 :=
  (OgsCrypt.hmacSha256 kasme [0x15, distinguisher, 0x00, 0x01, identity, 0x00, 0x01]).drop 16

def mmeKdfEnb (kasme : Octets32) (ulCount : UInt32) : Octets32 :=
  OgsCrypt.hmacSha256 kasme ([0x11] ++ (Octets.htonl ulCount).toList ++ [0x00, 0x04])

def mmeKdfNh (kasme syncInput : Octets32) : Octets32 :=
  OgsCrypt.hmacSha256 kasme ([0x12] ++ syncInput.toList ++ [0x00, 0x20])

end

/-! ## Selection of the algorithms -/

/-- The configured orders of algorithms and the numbers of retransmissions. -/
structure MmeConfig where
  integrityOrder : List UInt8
  cipheringOrder : List UInt8
  t3450MaxCount : Nat
  t3460MaxCount : Nat
  t3470MaxCount : Nat

/-- The first algorithm of an order that the UE supports. -/
def mmeSelectedAlgorithm (order : List UInt8) (capability : UInt8) : UInt8 :=
  (order.find? fun algorithm => capability &&& ((0x80 : UInt8) >>> algorithm) != 0).getD 0

def mmeSelectedIntAlgorithm (cfg : MmeConfig) (ue : MmeUe) : UInt8 :=
  mmeSelectedAlgorithm cfg.integrityOrder ue.eia

def mmeSelectedEncAlgorithm (cfg : MmeConfig) (ue : MmeUe) : UInt8 :=
  mmeSelectedAlgorithm cfg.cipheringOrder ue.eea

end NextEpc

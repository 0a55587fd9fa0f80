import NextEpc.Gtp.Types
import NextEpc.Gx.ChargingRule
import NextEpc.Mme.NasDownlink
import NextEpc.Mme.S1apContext

/-!
# The contexts that S11 messages are about

What the handlers of messages from the SGW use of UEs, S1 connections, sessions and bearers. The
sessions of a UE are in its record and the bearers of a session in that of the session, in the
order of the lists; a function that is given a session or a bearer is given what is in it, and
writes it back.
-/

namespace NextEpc

/-! ## Information elements -/

/-- `ogs_gtp_f_teid_t`, with the address fields that the two flags select -/
structure GtpFTeid where
  ipv4 : Bool
  ipv6 : Bool
  teid : UInt32
  addr : Octets4
  addr6 : Octets16
  deriving DecidableEq, Repr

/-- A tunnel to the SGW. One with a TEID has an address. -/
structure GtpTunnel where
  teid : UInt32
  ip : Bytes
  valid : teid ≠ 0 → ip ≠ []
  deriving DecidableEq

namespace GtpTunnel

/-- Memory that was never used. -/
def unused : GtpTunnel := ⟨0, [], fun h => absurd rfl h⟩

/-- The TEID is set to zero. The address stays. -/
def clear (tunnel : GtpTunnel) : GtpTunnel := ⟨0, tunnel.ip, fun h => absurd rfl h⟩

end GtpTunnel

/-- The flags of an F-TEID announce an address. -/
def GtpFTeid.HasAddress (f : GtpFTeid) : Prop := f.ipv4 = true ∨ f.ipv6 = true

instance (f : GtpFTeid) : Decidable f.HasAddress := inferInstanceAs (Decidable (_ ∨ _))

/-- The octets that `ogs_gtp_f_teid_to_ip` copies. -/
def GtpFTeid.ip (f : GtpFTeid) : Bytes :=
  (if f.ipv4 then f.addr.toList else []) ++ (if f.ipv6 then f.addr6.toList else [])

theorem GtpFTeid.ip_ne_nil {f : GtpFTeid} (h : f.HasAddress) : f.ip ≠ [] := by
  intro hnil
  obtain ⟨h4, h6⟩ := List.append_eq_nil_iff.mp hnil
  rcases h with h | h
  · rw [if_pos h] at h4
    exact absurd (congrArg List.length h4) (by simp)
  · rw [if_pos h] at h6
    exact absurd (congrArg List.length h6) (by simp)

/-- The tunnel to an F-TEID -/
def GtpFTeid.tunnel (f : GtpFTeid) (h : f.HasAddress) : GtpTunnel :=
  ⟨f.teid, f.ip, fun _ => f.ip_ne_nil h⟩

/-- `ogs_gtp_f_teid_to_ip`, with the TEID -/
def gtpFTeidToIp (f : GtpFTeid) : MmeM GtpTunnel :=
  if h : f.HasAddress then .ok (f.tunnel h) else .error (.assert .s11Handler)

/-- `bearer->qos` of a parsed Bearer QoS -/
def GtpBearerQos.qos (qos : GtpBearerQos) : Qos where
  qci := qos.qci
  arp := {
    priorityLevel := UInt8.ofNat qos.priorityLevel
    preEmptionCapability := UInt8.ofNat qos.preEmptionCapability
    preEmptionVulnerability := UInt8.ofNat qos.preEmptionVulnerability }
  mbr := { uplink := qos.ulMbr, downlink := qos.dlMbr }
  gbr := { uplink := qos.ulGbr, downlink := qos.dlGbr }

/-- `ogs_gtp_parse_bearer_qos`, as its callers in the MME use it -/
def gtpParseBearerQos [OgsConv] (octet : Bytes) : MmeM Qos := do
  Fallible.assert .s11Handler (octet.length = gtpBearerQosLen)
  .ok (gtpBearerQosFields octet).qos

/-- `ogs_tlv_bearer_context_t` -/
structure GtpBearerContext where
  epsBearerId : Option UInt8
  s1UEnodebFTeid : Option GtpFTeid
  s4USgsnFTeid : Option GtpFTeid
  s2bUEpdgFTeid5 : Option GtpFTeid
  bearerLevelQos : Option Bytes
  tft : Option Bytes
  deriving DecidableEq, Repr

/-- `GTP_MAX_NUM_OF_INDIRECT_TUNNEL` -/
def gtpMaxNumOfIndirectTunnel : Nat := 11

/-! ## Records -/

/-- `mme_bearer_t` -/
structure S11Bearer where
  id : MmeBearerId
  ebi : UInt8
  sm : EsmState
  enbS1uTeid : UInt32
  sgwS1u : GtpTunnel
  enbDlTeid : UInt32
  enbUlTeid : UInt32
  sgwDl : GtpTunnel
  sgwUl : GtpTunnel
  qos : Qos
  tft : Option Bytes
  xact : Option Nat
  deriving DecidableEq

/-- `mme_sess_t`. The first bearer is the default bearer, and `pdn` is one of the PDNs of the
subscription data. -/
structure S11Sess where
  id : MmeSessId
  pti : UInt8
  pdn : Option Nat
  pgwPco : Option Bytes
  bearerList : List S11Bearer
  deriving DecidableEq

/-- `ogs_pdn_t`, with the octets of its PDN address -/
structure S11Pdn where
  apn : CString
  qos : Qos
  ambr : Bitrate
  paa : Bytes
  deriving DecidableEq

/-- `guti` -/
structure S11Guti where
  nasPlmnId : Bytes
  mmeGid : UInt16
  mmeCode : UInt8
  mTmsi : UInt32
  deriving DecidableEq, Repr

/-- `mme_ue_t` -/
structure S11Ue extends MmeUe where
  tai : OgsTai
  /-- `guti`, if `guti_present` -/
  guti : Option S11Guti
  pTmsi : UInt32
  csmap : Option Nat
  ambr : Bitrate
  pdns : Nat → S11Pdn
  ebi : UInt8
  sessList : List S11Sess
  ueRadioCapability : Option Bytes
  container : Option Bytes
  pathSwitchCounter : GtpCounter
  handoverNotifyCounter : GtpCounter

/-- `mme_ue_s1ap_id` and `enb_ue_s1ap_id` -/
structure S1apIds where
  mmeUeS1apId : UInt32
  enbUeS1apId : UInt32
  deriving DecidableEq, Repr

/-! ## Messages that are sent -/

/-- `S1AP_E_RABToBeSetupItemBearerSUReq_t` and its like -/
structure S11ERab where
  ebi : UInt8
  qos : Qos
  sgwS1u : GtpTunnel
  deriving DecidableEq

/-- What S1AP messages are built from, apart from the NAS PDU in them -/
inductive S11Pdu
  | downlinkNasTransport (ids : S1apIds)
  | initialContextSetupRequest (ids : S1apIds) (ambr : Bitrate) (eRabs : List S11ERab)
      (eea eia : UInt8) (kenb : Octets32) (registeredLai : Option (Bytes × Nat))
      (ueRadioCapability : Option Bytes)
  | eRabSetupRequest (ids : S1apIds) (eRab : S11ERab)
  | eRabModifyRequest (ids : S1apIds) (ebi : UInt8) (qos : Qos)
  | eRabReleaseCommand (ids : S1apIds) (ambr : Bitrate) (ebi : UInt8) (cause : S1apCause)
  | pathSwitchRequestAcknowledge (ids : S1apIds) (nhcc : Nat) (nh : Octets32)
  | handoverCommand (ids : S1apIds) (handoverType : Nat)
      (eRabs : List (UInt8 × GtpTunnel × GtpTunnel)) (container : Option Bytes)
  | ueContextReleaseCommand (ids : S1apIds) (cause : S1apCause)
  deriving DecidableEq

/-- What NAS messages are built from -/
inductive S11Nas
  | attachAccept (attachType : UInt8) (servedTai : Nat) (esmMessageContainer : Bytes)
      (guti : Option S11Guti) (lai : Option (Nat × UInt32))
  | detachAccept
  | activateDefaultEpsBearerContextRequest (ebi pti : UInt8) (qos : Qos) (apn : CString)
      (pdnAddress : Bytes) (ambr : Bitrate) (pco : Option Bytes)
  | activateDedicatedEpsBearerContextRequest (ebi linkedEbi : UInt8) (qos : Qos) (tft : Bytes)
  | modifyEpsBearerContextRequest (ebi pti : UInt8) (qos : Option Qos) (tft : Option Bytes)
  | deactivateEpsBearerContextRequest (ebi pti : UInt8) (esmCause : UInt8)
  deriving DecidableEq

/-- `enb_ue_t` -/
structure S11EnbUe where
  ids : S1apIds
  handoverType : Nat
  sourceUe : Option EnbUeId
  mmeUe : Option MmeUeId
  ueCtxRelAction : UeCtxRelAction
  tUeContextRelease : MmeTimer S11Pdu

/-- Answers to the SGW, with the TEID in their header -/
inductive S11Answer
  | updateBearerResponse (teid : UInt32) (ebi : UInt8)
  | downlinkDataNotificationAcknowledge (teid : UInt32)
  deriving DecidableEq, Repr

inductive S11Sent
  | toEnbUe (enbUe : EnbUeId) (pdu : S11Pdu) (nasPdu : Option Bytes)
  /-- The Initial Context Setup Request under T3450, by its `KeNB` -/
  | toEnbUeAgain (enbUe : EnbUeId) (kenb : Octets32)
  /-- `s1ap_delayed_send_to_enb_ue`, with a duration -/
  | delayed (enbUe : EnbUeId) (pdu : S11Pdu)
  | toSgw (xact : Nat) (answer : S11Answer)
  /-- `sgsap_send_location_update_request` -/
  | toVlr (mmeUe : MmeUeId) (csmap : Nat)
  /-- `mme_s6a_send_air` -/
  | toHss (mmeUe : MmeUeId)
  deriving DecidableEq

/-! ## Code that is not modelled -/

/-- Constants and types of ogslib, and the generated encoders of NAS and S1AP messages -/
class MmeCodec where
  /-- `sizeof(ogs_paa_t)` -/
  paaSize : Nat
  /-- The field `pdn_type` of an `ogs_paa_t` -/
  paaPdnType : Bytes → UInt8
  /-- `OGS_MAX_PCO_LEN` -/
  maxPcoLen : Nat
  /-- `MAX_BIT_RATE` -/
  maxBitRate : UInt64
  /-- `ogs_nas_plain_encode` -/
  nasPlainEncode : S11Nas → Bytes
  /-- A NAS message has a header. -/
  nasPlainEncode_ne_nil : ∀ nas, nasPlainEncode nas ≠ []
  /-- Whether `ogs_s1ap_encode` succeeds. The NAS PDU in a message is an octet string of any
  length, and not a reason to fail. -/
  s1apEncodes : S11Pdu → Bool

/-- An implementation for runs on concrete inputs. The types of the PDN address are in the low bits
of its first octet, and the next hop chaining count has three bits. -/
@[reducible] def MmeCodec.reference : MmeCodec where
  paaSize := 21
  paaPdnType paa := paa.headD 0 &&& 0x07
  maxPcoLen := 251
  maxBitRate := 10000000000
  nasPlainEncode _ := [0x07, 0x00]
  nasPlainEncode_ne_nil := by simp
  s1apEncodes
    | .pathSwitchRequestAcknowledge _ nhcc _ => decide (nhcc < 8)
    | _ => true

/-! ## The state -/

structure S11Mme where
  mmeUes : Pool S11Ue
  enbUes : Pool S11EnbUe
  /-- `mme_find_served_tai`, if it is not -1 -/
  servedTai : OgsTai → Option Nat
  /-- `mme_csmap_find_by_tai` -/
  csmaps : OgsTai → Option Nat
  /-- The VLR of a map has a node with a socket. -/
  vlrSock : Nat → Bool
  /-- The VLR of a map is in `sgsap_state_connected`. -/
  vlrConnected : Nat → Bool
  sent : List S11Sent

/-! ## Sessions and bearers -/

namespace S11Sess

/-- `mme_default_bearer_in_sess` -/
def defaultBearer (sess : S11Sess) : Option S11Bearer := sess.bearerList.head?

/-- A bearer is written back to its session. -/
def putBearer (sess : S11Sess) (bearer : S11Bearer) : S11Sess :=
  { sess with
    bearerList := S1MmeUe.updateFirst (fun b => b.id = bearer.id) (fun _ => bearer)
      sess.bearerList }

end S11Sess

namespace S11Bearer
variable (bearer : S11Bearer)

/-- `MME_HAVE_ENB_S1U_PATH` -/
def HaveEnbS1uPath : Prop := bearer.enbS1uTeid ≠ 0

instance : Decidable bearer.HaveEnbS1uPath := inferInstanceAs (Decidable (_ ≠ _))

/-- `CLEAR_INDIRECT_TUNNEL` -/
def clearIndirectTunnel : S11Bearer :=
  { bearer with
    enbDlTeid := 0
    enbUlTeid := 0
    sgwDl := bearer.sgwDl.clear
    sgwUl := bearer.sgwUl.clear }

end S11Bearer

namespace S11Ue
variable (ue : S11Ue)

/-- `mme_bearer_find_by_ue_ebi`, with the session of the bearer -/
def bearerFindByUeEbi (ebi : UInt8) : Option (S11Sess × S11Bearer) :=
  ue.sessList.findSome? fun sess =>
    (sess.bearerList.find? fun bearer => bearer.ebi = ebi).map fun bearer => (sess, bearer)

/-- A session is written back to its UE. -/
def putSess (sess : S11Sess) : S11Ue :=
  { ue with
    sessList := S1MmeUe.updateFirst (fun s => s.id = sess.id) (fun _ => sess) ue.sessList }

/-- A bearer is written back to its session and UE. -/
def putBearer (sess : S11Sess) (bearer : S11Bearer) : S11Ue := ue.putSess (sess.putBearer bearer)

/-- A write to all bearers. -/
def updateBearers (f : S11Bearer → S11Bearer) : S11Ue :=
  { ue with
    sessList := ue.sessList.map fun sess => { sess with bearerList := sess.bearerList.map f } }

/-- A write to the bearer that is found by its identity. -/
def updateBearer (ebi : UInt8) (f : S11Bearer → S11Bearer) : S11Ue :=
  { ue with
    sessList := S1MmeUe.updateFirst
      (fun sess => sess.bearerList.any fun bearer => bearer.ebi = ebi)
      (fun sess => { sess with
        bearerList := S1MmeUe.updateFirst (fun bearer => bearer.ebi = ebi) f sess.bearerList })
      ue.sessList }

/-- `mme_bearer_add`, in a slot that the pool gives, if it gives one. The slot keeps what was in
it. -/
def bearerAdd [Ogslib] (sess : S11Sess) (slot : Option S11Bearer) :
    MmeM (S11Ue × S11Sess × S11Bearer) := do
  let bearer ← Fallible.assertSome .mmeContext slot
  let ebi := nextEbi ue.ebi
  let bearer := { bearer with ebi := ebi, sm := .inactive }
  let sess := { sess with bearerList := sess.bearerList ++ [bearer] }
  .ok ({ ue with ebi := ebi }.putSess sess, sess, bearer)

/-- `CLEAR_SESSION_CONTEXT` -/
def clearSessionContext : S11Ue :=
  { ue with sgwS11Teid := 0, sessionContextWillDeleted := false }

/-- `mme_sess_remove` -/
def sessRemove (id : MmeSessId) : S11Ue :=
  { ue with sessList := ue.sessList.filter fun sess => sess.id ≠ id }

/-- `CLEAR_BEARER_CONTEXT` -/
def clearBearerContext : S11Ue := ue.updateBearers fun bearer => { bearer with enbS1uTeid := 0 }

/-- `mme_ue_clear_indirect_tunnel` -/
def clearIndirectTunnel : S11Ue := ue.updateBearers S11Bearer.clearIndirectTunnel

end S11Ue

namespace S11Mme
variable (s : S11Mme)

def send (sent : S11Sent) : S11Mme := { s with sent := s.sent ++ [sent] }

def putMmeUe (mmeUe : MmeUeId) (ue : S11Ue) : S11Mme :=
  { s with mmeUes := s.mmeUes.modify mmeUe fun _ => ue }

def modifyEnbUe (enbUe : EnbUeId) (f : S11EnbUe → S11EnbUe) : S11Mme :=
  { s with enbUes := s.enbUes.modify enbUe f }

/-- `MME_P_TMSI_IS_AVAILABLE`, with the map and the P-TMSI -/
def pTmsiIsAvailable (ue : S11Ue) : Option (Nat × UInt32) :=
  match ue.csmap with
  | some csmap => if s.vlrConnected csmap ∧ ue.pTmsi ≠ 0 then some (csmap, ue.pTmsi) else none
  | none => none

end S11Mme

end NextEpc

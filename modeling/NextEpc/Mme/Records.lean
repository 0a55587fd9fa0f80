import NextEpc.Gx.ChargingRule
import NextEpc.Mme.Tables
import NextEpc.Ogslib

/-!
# The records of the MME

`mme-context.c`: UEs, S1 connections, sessions and bearers come from pools that give out a free
slot with its old octets. To add a record is to write some of its fields, and to remove it is
to clear some others. In between the handlers write to it.
-/

namespace NextEpc

abbrev MmeSessId := Nat

abbrev MmeBearerId := Nat

/-- `ogs_tai_t` -/
structure OgsTai where
  plmnId : Bytes
  tac : Nat
  deriving DecidableEq, Repr

/-- `ogs_e_cgi_t` -/
structure OgsECgi where
  plmnId : Bytes
  cellId : Nat
  deriving DecidableEq, Repr

/-- `tai` and `e_cgi`, of `enb_ue->saved` and of `mme_ue_t` -/
structure UserLocation where
  tai : OgsTai
  eCgi : OgsECgi
  deriving DecidableEq, Repr

/-- A retransmission timer: the message that is sent again, and how often it was. -/
structure RetryTimer where
  pkbuf : Option Bytes
  retryCount : UInt32
  deriving DecidableEq, Repr

/-- `gtp_counter` -/
structure GtpCounter where
  request : UInt8
  response : UInt8
  deriving DecidableEq, Repr

/-- `nas_eps` without the key set identifier -/
structure MmeUeNasEps where
  type : UInt8
  data : UInt8
  deriving DecidableEq, Repr

/-- The security context of `mme_ue_t` and the fields it is checked with. -/
structure MmeUeSecurity where
  ksi : UInt8
  securityContextAvailable : Bool
  macFailed : Bool
  ueNetworkCapability : Bytes
  msNetworkCapability : Bytes
  xres : Bytes
  kasme : Bytes
  rand : Bytes
  knasInt : Bytes
  knasEnc : Bytes
  dlCount : UInt32
  ulCount : UInt32
  kenb : Bytes
  nhcc : UInt8
  nh : Bytes
  selectedEncAlgorithm : UInt8
  selectedIntAlgorithm : UInt8
  deriving DecidableEq, Repr

/-- `ogs_diam_s6a_subscription_data_t` without the PDNs. Those from `num_of_pdn` on are not read. -/
structure MmeUeSubscription where
  accessRestrictionData : UInt32
  subscriberStatus : UInt32
  networkAccessMode : UInt32
  ambr : Bitrate
  subscribedRauTauTimer : UInt32
  contextIdentifier : UInt32
  deriving DecidableEq

/-- `mme_ue_t`. Of `imsi` the first `imsi_len` octets are kept. -/
structure MmeUeRecord where
  nasEps : MmeUeNasEps
  imsi : Bytes
  imsiBcd : Bytes
  nasMobileIdentityImsi : Bytes
  mTmsi : Option Nat
  pTmsi : UInt32
  guti : OgsNasGuti
  gutiPresent : Bool
  mmeS11Teid : UInt32
  sgwS11Teid : UInt32
  vlrOstreamId : UInt16
  location : UserLocation
  lastVisitedPlmnId : Bytes
  security : MmeUeSecurity
  subscription : MmeUeSubscription
  numOfPdn : Nat
  ebi : UInt8
  sessList : List MmeSessId
  enbUe : Option EnbUeId
  pdnConnectivityRequest : Option Bytes
  t3413 : RetryTimer
  t3422 : RetryTimer
  t3450 : RetryTimer
  t3460 : RetryTimer
  t3470 : RetryTimer
  serviceIndicator : UInt8
  ueRadioCapability : Option Bytes
  container : Option Bytes
  pathSwitchCounter : GtpCounter
  handoverNotifyCounter : GtpCounter
  sessionContextWillDeleted : Bool
  gnode : Option Nat
  csmap : Option Nat
  deriving DecidableEq

/-- `enb_ue_t` -/
structure EnbUeRecord where
  enbUeS1apId : UInt32
  mmeUeS1apId : UInt32
  enbOstreamId : UInt16
  handoverType : UInt8
  sourceUe : Option EnbUeId
  targetUe : Option EnbUeId
  saved : UserLocation
  ueCtxRelAction : UInt8
  tUeContextRelease : RetryTimer
  enb : MmeEnbId
  mmeUe : Option MmeUeId
  deriving DecidableEq, Repr

/-- `mme_sess_t` -/
structure MmeSessRecord where
  pti : UInt8
  requestType : UInt8
  bearerList : List MmeBearerId
  mmeUe : MmeUeId
  pdn : Option Nat
  uePco : Option Bytes
  pgwPco : Option Bytes
  deriving DecidableEq, Repr

/-- The end of a tunnel in `mme_bearer_t`: a TEID and the octets of an `ogs_ip_t` -/
structure MmeTunnelEnd where
  teid : UInt32
  ip : Bytes
  deriving DecidableEq, Repr

/-- `mme_bearer_t` -/
structure MmeBearerRecord where
  ebi : UInt8
  enbS1u : MmeTunnelEnd
  sgwS1u : MmeTunnelEnd
  targetS1u : MmeTunnelEnd
  enbDl : MmeTunnelEnd
  enbUl : MmeTunnelEnd
  sgwDl : MmeTunnelEnd
  sgwUl : MmeTunnelEnd
  qos : Qos
  tft : Option Bytes
  t3489 : RetryTimer
  mmeUe : MmeUeId
  sess : MmeSessId
  xact : Option Nat
  deriving DecidableEq

/-! ## What is written to a record when it is added, and when it is removed -/

/-- `CLEAR_MME_UE_TIMER`, and the memory of a pool that was never used. -/
def RetryTimer.cleared : RetryTimer := ⟨none, 0⟩

def MmeUeSecurity.blank : MmeUeSecurity :=
  ⟨0, false, false, [], [], [], [], [], [], [], 0, 0, [], 0, [], 0, 0⟩

def MmeUeSubscription.blank : MmeUeSubscription := ⟨0, 0, 0, ⟨0, 0⟩, 0, 0⟩

def UserLocation.blank : UserLocation := ⟨⟨[], 0⟩, ⟨[], 0⟩⟩

def OgsNasGuti.blank : OgsNasGuti := ⟨#v[0, 0, 0], 0, 0, 0⟩

def MmeTunnelEnd.blank : MmeTunnelEnd := ⟨0, []⟩

/-- The memory of a pool that was never used. -/
def MmeUeRecord.blank : MmeUeRecord where
  nasEps := ⟨0, 0⟩
  imsi := []
  imsiBcd := []
  nasMobileIdentityImsi := []
  mTmsi := none
  pTmsi := 0
  guti := .blank
  gutiPresent := false
  mmeS11Teid := 0
  sgwS11Teid := 0
  vlrOstreamId := 0
  location := .blank
  lastVisitedPlmnId := []
  security := .blank
  subscription := .blank
  numOfPdn := 0
  ebi := 0
  sessList := []
  enbUe := none
  pdnConnectivityRequest := none
  t3413 := .cleared
  t3422 := .cleared
  t3450 := .cleared
  t3460 := .cleared
  t3470 := .cleared
  serviceIndicator := 0
  ueRadioCapability := none
  container := none
  pathSwitchCounter := ⟨0, 0⟩
  handoverNotifyCounter := ⟨0, 0⟩
  sessionContextWillDeleted := false
  gnode := none
  csmap := none

def EnbUeRecord.blank : EnbUeRecord := ⟨0, 0, 0, 0, none, none, .blank, 0, .cleared, 0, none⟩

def MmeSessRecord.blank : MmeSessRecord := ⟨0, 0, [], 0, none, none, none⟩

def MmeBearerRecord.blank : MmeBearerRecord :=
  ⟨0, .blank, .blank, .blank, .blank, .blank, .blank, .blank, ⟨0, ⟨0, 0, 0⟩, ⟨0, 0⟩, ⟨0, 0⟩⟩, none,
    .cleared, 0, 0, none⟩

/-- The new GUTI is written by `mme_ue_new_guti`. -/
def MmeUeRecord.add (m : MmeUeRecord) (mmeS11Teid : UInt32) (mTmsi : Nat) (guti : OgsNasGuti)
    (gnode : Nat) : MmeUeRecord :=
  { m with
    sessList := []
    mmeS11Teid := mmeS11Teid
    mTmsi := some mTmsi
    guti := guti
    gnode := some gnode
    csmap := none
    vlrOstreamId := 0 }

/-- `mme_ue_remove` without the removal of the sessions. -/
def MmeUeRecord.clear (m : MmeUeRecord) : MmeUeRecord :=
  { m with
    pdnConnectivityRequest := none
    serviceIndicator := 0
    ueRadioCapability := none
    container := none
    t3413 := .cleared
    t3422 := .cleared
    t3450 := .cleared
    t3460 := .cleared
    t3470 := .cleared
    enbUe := none
    numOfPdn := 0 }

/-- `INVALID_UE_S1AP_ID` -/
def invalidUeS1apId : UInt32 := 0xffffffff

def EnbUeRecord.add (m : EnbUeRecord) (enb : MmeEnbId) (mmeUeS1apId : UInt32)
    (enbOstreamId : UInt16) : EnbUeRecord :=
  { m with
    enbUeS1apId := invalidUeS1apId
    mmeUeS1apId := mmeUeS1apId
    enbOstreamId := enbOstreamId
    enb := enb }

def EnbUeRecord.clear (m : EnbUeRecord) : EnbUeRecord :=
  { m with tUeContextRelease := .cleared, mmeUe := none }

def MmeSessRecord.add (m : MmeSessRecord) (mmeUe : MmeUeId) (pti : UInt8) : MmeSessRecord :=
  { m with bearerList := [], mmeUe := mmeUe, pti := pti }

def MmeSessRecord.clear (m : MmeSessRecord) : MmeSessRecord :=
  { m with uePco := none, pgwPco := none }

def MmeBearerRecord.add (m : MmeBearerRecord) (ebi : UInt8) (mmeUe : MmeUeId)
    (sess : MmeSessId) : MmeBearerRecord :=
  { m with ebi := ebi, mmeUe := mmeUe, sess := sess }

def MmeBearerRecord.clear (m : MmeBearerRecord) : MmeBearerRecord :=
  { m with t3489 := .cleared, tft := none }

/-! ## Operations -/

structure MmeRecords where
  mmeUes : Pool MmeUeRecord
  enbUes : Pool EnbUeRecord
  sesss : Pool MmeSessRecord
  bearers : Pool MmeBearerRecord

/-- `MIN_EPS_BEARER_ID` -/
def minEpsBearerId : UInt8 := 5

/-- `MAX_EPS_BEARER_ID` -/
def maxEpsBearerId : UInt8 := 15

/-- `OGS_NEXT_ID(mme_ue->ebi, MIN_EPS_BEARER_ID, MAX_EPS_BEARER_ID)` -/
def nextEbi [Ogslib] (ebi : UInt8) : UInt8 :=
  (Ogslib.nextId ebi.toUInt32 minEpsBearerId.toUInt32 maxEpsBearerId.toUInt32).toUInt8

namespace MmeRecords

def initial : MmeRecords where
  mmeUes := Pool.unused fun _ => .blank
  enbUes := Pool.unused fun _ => .blank
  sesss := Pool.unused fun _ => .blank
  bearers := Pool.unused fun _ => .blank

section
variable (s : MmeRecords)

def enbUeAdd (enbUe : EnbUeId) (enb : MmeEnbId) (mmeUeS1apId : UInt32) (enbOstreamId : UInt16) :
    MmeRecords :=
  { s with
    enbUes := (s.enbUes.alloc enbUe).modify enbUe fun m => m.add enb mmeUeS1apId enbOstreamId }

def enbUeRemove (enbUe : EnbUeId) : MmeRecords :=
  { s with enbUes := (s.enbUes.modify enbUe EnbUeRecord.clear).free enbUe }

def mmeBearerAdd [Ogslib] (bearer : MmeBearerId) (sess : MmeSessId) : MmeRecords :=
  let mmeUe := (s.sesss.mem sess).mmeUe
  let ebi := nextEbi (s.mmeUes.mem mmeUe).ebi
  { s with
    mmeUes := s.mmeUes.modify mmeUe fun m => { m with ebi := ebi }
    bearers := (s.bearers.alloc bearer).modify bearer fun m => m.add ebi mmeUe sess
    sesss := s.sesss.modify sess fun m => { m with bearerList := m.bearerList ++ [bearer] } }

def mmeBearerRemove (bearer : MmeBearerId) : MmeRecords :=
  let sess := (s.bearers.mem bearer).sess
  { s with
    bearers := (s.bearers.modify bearer MmeBearerRecord.clear).free bearer
    sesss := s.sesss.modify sess fun m => { m with bearerList := m.bearerList.erase bearer } }

def mmeBearerRemoveAll (sess : MmeSessId) : MmeRecords :=
  (s.sesss.mem sess).bearerList.foldl mmeBearerRemove s

def mmeSessAdd [Ogslib] (sess : MmeSessId) (bearer : MmeBearerId) (mmeUe : MmeUeId)
    (pti : UInt8) : MmeRecords :=
  let s := { s with sesss := (s.sesss.alloc sess).modify sess fun m => m.add mmeUe pti }
  let s := s.mmeBearerAdd bearer sess
  { s with mmeUes := s.mmeUes.modify mmeUe fun m => { m with sessList := m.sessList ++ [sess] } }

def mmeSessRemove (sess : MmeSessId) : MmeRecords :=
  let mmeUe := (s.sesss.mem sess).mmeUe
  let s := { s with
    mmeUes := s.mmeUes.modify mmeUe fun m => { m with sessList := m.sessList.erase sess } }
  let s := s.mmeBearerRemoveAll sess
  { s with sesss := (s.sesss.modify sess MmeSessRecord.clear).free sess }

def mmeSessRemoveAll (mmeUe : MmeUeId) : MmeRecords :=
  (s.mmeUes.mem mmeUe).sessList.foldl mmeSessRemove s

def mmeUeAdd (mmeUe : MmeUeId) (mTmsi : Nat) (guti : OgsNasGuti) (gnode : Nat) : MmeRecords :=
  { s with
    mmeUes := (s.mmeUes.alloc mmeUe).modify mmeUe fun m =>
      m.add (UInt32.ofNat mmeUe) mTmsi guti gnode }

def mmeUeRemove (mmeUe : MmeUeId) : MmeRecords :=
  let s := { s with mmeUes := s.mmeUes.modify mmeUe MmeUeRecord.clear }
  let s := s.mmeSessRemoveAll mmeUe
  { s with mmeUes := s.mmeUes.free mmeUe }

/-- `CLEAR_EPS_BEARER_ID`, for each Attach Request. -/
def clearEpsBearerId (mmeUe : MmeUeId) : MmeRecords :=
  { s with mmeUes := s.mmeUes.modify mmeUe fun m => { m with ebi := minEpsBearerId - 1 } }

/-! A handler writes to a record. The identities of bearers, the lists and the pointers to the
record that a list belongs to are written by the operations above only. -/

def setMmeUe (mmeUe : MmeUeId) (r : MmeUeRecord) : MmeRecords :=
  { s with
    mmeUes := s.mmeUes.modify mmeUe fun m => { r with ebi := m.ebi, sessList := m.sessList } }

def setEnbUe (enbUe : EnbUeId) (r : EnbUeRecord) : MmeRecords :=
  { s with enbUes := s.enbUes.modify enbUe fun _ => r }

def setSess (sess : MmeSessId) (r : MmeSessRecord) : MmeRecords :=
  { s with
    sesss := s.sesss.modify sess fun m =>
      { r with bearerList := m.bearerList, mmeUe := m.mmeUe } }

def setBearer (bearer : MmeBearerId) (r : MmeBearerRecord) : MmeRecords :=
  { s with
    bearers := s.bearers.modify bearer fun m =>
      { r with ebi := m.ebi, mmeUe := m.mmeUe, sess := m.sess } }

section
variable {s} {bearer : MmeBearerId} {sess : MmeSessId}

@[simp] theorem enbUes_mmeBearerRemove : (s.mmeBearerRemove bearer).enbUes = s.enbUes := rfl

@[simp] theorem mmeUes_mmeBearerRemove : (s.mmeBearerRemove bearer).mmeUes = s.mmeUes := rfl

theorem sesss_mmeBearerRemove : (s.mmeBearerRemove bearer).sesss =
    s.sesss.modify (s.bearers.mem bearer).sess fun m =>
      { m with bearerList := m.bearerList.erase bearer } := rfl

theorem bearers_mmeBearerRemove : (s.mmeBearerRemove bearer).bearers =
    (s.bearers.modify bearer MmeBearerRecord.clear).free bearer := rfl

theorem mmeUes_mmeBearerAdd [Ogslib] : (s.mmeBearerAdd bearer sess).mmeUes =
    s.mmeUes.modify (s.sesss.mem sess).mmeUe fun m =>
      { m with ebi := nextEbi (s.mmeUes.mem (s.sesss.mem sess).mmeUe).ebi } := rfl

theorem sesss_mmeBearerAdd [Ogslib] : (s.mmeBearerAdd bearer sess).sesss =
    s.sesss.modify sess fun m => { m with bearerList := m.bearerList ++ [bearer] } := rfl

theorem bearers_mmeBearerAdd [Ogslib] : (s.mmeBearerAdd bearer sess).bearers =
    (s.bearers.alloc bearer).modify bearer fun m =>
      m.add (nextEbi (s.mmeUes.mem (s.sesss.mem sess).mmeUe).ebi) (s.sesss.mem sess).mmeUe sess :=
  rfl

end

/-! ## Searching a bearer -/

def mmeBearerFindBySessEbi (sess : MmeSessId) (ebi : UInt8) : Option MmeBearerId :=
  (s.sesss.mem sess).bearerList.find? fun bearer => (s.bearers.mem bearer).ebi = ebi

/-- The first bearer with the identity in the first session that has one. -/
def mmeBearerFindByUeEbi (mmeUe : MmeUeId) (ebi : UInt8) : Option MmeBearerId :=
  (s.mmeUes.mem mmeUe).sessList.findSome? fun sess => s.mmeBearerFindBySessEbi sess ebi

end

/-! ## Runs -/

inductive Op
  | enbUeAdd (enbUe : EnbUeId) (enb : MmeEnbId) (mmeUeS1apId : UInt32) (enbOstreamId : UInt16)
  | enbUeRemove (enbUe : EnbUeId)
  | mmeUeAdd (mmeUe : MmeUeId) (mTmsi : Nat) (guti : OgsNasGuti) (gnode : Nat)
  | mmeUeRemove (mmeUe : MmeUeId)
  | mmeSessAdd (sess : MmeSessId) (bearer : MmeBearerId) (mmeUe : MmeUeId) (pti : UInt8)
  | mmeSessRemove (sess : MmeSessId)
  | mmeBearerAdd (bearer : MmeBearerId) (sess : MmeSessId)
  | mmeBearerRemove (bearer : MmeBearerId)
  | clearEpsBearerId (mmeUe : MmeUeId)
  | setMmeUe (mmeUe : MmeUeId) (r : MmeUeRecord)
  | setEnbUe (enbUe : EnbUeId) (r : EnbUeRecord)
  | setSess (sess : MmeSessId) (r : MmeSessRecord)
  | setBearer (bearer : MmeBearerId) (r : MmeBearerRecord)
  deriving DecidableEq

variable [Ogslib]

def apply (s : MmeRecords) : Op → MmeRecords
  | .enbUeAdd enbUe enb mmeUeS1apId enbOstreamId => s.enbUeAdd enbUe enb mmeUeS1apId enbOstreamId
  | .enbUeRemove enbUe => s.enbUeRemove enbUe
  | .mmeUeAdd mmeUe mTmsi guti gnode => s.mmeUeAdd mmeUe mTmsi guti gnode
  | .mmeUeRemove mmeUe => s.mmeUeRemove mmeUe
  | .mmeSessAdd sess bearer mmeUe pti => s.mmeSessAdd sess bearer mmeUe pti
  | .mmeSessRemove sess => s.mmeSessRemove sess
  | .mmeBearerAdd bearer sess => s.mmeBearerAdd bearer sess
  | .mmeBearerRemove bearer => s.mmeBearerRemove bearer
  | .clearEpsBearerId mmeUe => s.clearEpsBearerId mmeUe
  | .setMmeUe mmeUe r => s.setMmeUe mmeUe r
  | .setEnbUe enbUe r => s.setEnbUe enbUe r
  | .setSess sess r => s.setSess sess r
  | .setBearer bearer r => s.setBearer bearer r

omit [Ogslib] in
/-- Records are added in free slots, and the other operations are on records in use. -/
def Admits (s : MmeRecords) : Op → Prop
  | .enbUeAdd enbUe _ _ _ => s.enbUes.live enbUe = false
  | .enbUeRemove enbUe => s.enbUes.live enbUe = true
  | .mmeUeAdd mmeUe _ _ _ => s.mmeUes.live mmeUe = false
  | .mmeUeRemove mmeUe => s.mmeUes.live mmeUe = true
  | .mmeSessAdd sess bearer mmeUe _ => s.sesss.live sess = false ∧ s.bearers.live bearer = false ∧
    s.mmeUes.live mmeUe = true
  | .mmeSessRemove sess => s.sesss.live sess = true
  | .mmeBearerAdd bearer sess => s.bearers.live bearer = false ∧ s.sesss.live sess = true
  | .mmeBearerRemove bearer => s.bearers.live bearer = true
  | .clearEpsBearerId mmeUe => s.mmeUes.live mmeUe = true
  | .setMmeUe mmeUe _ => s.mmeUes.live mmeUe = true
  | .setEnbUe enbUe _ => s.enbUes.live enbUe = true
  | .setSess sess _ => s.sesss.live sess = true
  | .setBearer bearer _ => s.bearers.live bearer = true

/-- One operation. -/
def Step (s : MmeRecords) (op : Op) (t : MmeRecords) : Prop := s.Admits op ∧ t = s.apply op

end MmeRecords
end NextEpc

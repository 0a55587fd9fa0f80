import NextEpc.Gtp.Node
import NextEpc.Nas.Ie
import NextEpc.Nas.Imsi
import NextEpc.Pgw.GxMessage

/-!
# Messages on the S6a interface

The records of `s6a/message.h`, the entries of the dictionary that the MME and the HSS use, and
the AVPs that all of their requests and answers have.
-/

namespace NextEpc

/-- A string of C in an array of `n + 1` octets. -/
structure CArray (n : Nat) extends CString where
  length_le : octets.length ≤ n
  deriving DecidableEq

namespace CArray
variable {n : Nat}

/-- `ogs_cpystrn(dst, data, ogs_min(len, n) + 1)` -/
def copy (n : Nat) (data : Bytes) : CArray n where
  toCString := CString.copy (data.take n)
  length_le := by
    have htake : ((data.take n).takeWhile (· != 0)).length ≤ (data.take n).length :=
      (List.takeWhile_sublist _).length_le
    have hle : (data.take n).length ≤ n := by rw [List.length_take]; omega
    exact htake.trans hle

@[simp] theorem copy_octets (s : CArray n) : copy n s.octets = s := by
  obtain ⟨s, hs⟩ := s
  have htake : s.octets.take n = s.octets := List.take_of_length_le hs
  simp only [copy, htake, CString.copy_octets]

end CArray

/-! ## Records -/

/-- The record that `memset` leaves. -/
def OgsIp.cleared : OgsIp := ⟨.zero, 0, false, false⟩

/-- `ogs_pdn_t`, less the address of the UE -/
structure OgsPdn where
  contextIdentifier : UInt32
  apn : CArray ogsMaxApnLen
  pdnType : UInt32
  qos : Qos
  ambr : Bitrate
  pgwIp : OgsIp

/-- The record that `memset` leaves. -/
def OgsPdn.cleared : OgsPdn where
  contextIdentifier := 0
  apn := .copy _ []
  pdnType := 0
  qos := ⟨0, ⟨0, 0, 0⟩, ⟨0, 0⟩, ⟨0, 0⟩⟩
  ambr := ⟨0, 0⟩
  pgwIp := .cleared

/-- `ogs_diam_s6a_subscription_data_t`, with the entries of `pdn` below `num_of_pdn` -/
structure SubscriptionData (maxNumOfSess : Nat) where
  accessRestrictionData : UInt32
  subscriberStatus : UInt32
  networkAccessMode : UInt32
  ambr : Bitrate
  subscribedRauTauTimer : UInt32
  contextIdentifier : UInt32
  pdn : List OgsPdn
  pdn_le : pdn.length ≤ maxNumOfSess

/-- The record that `memset` leaves. -/
def SubscriptionData.cleared (maxNumOfSess : Nat) : SubscriptionData maxNumOfSess :=
  ⟨0, 0, 0, ⟨0, 0⟩, 0, 0, [], Nat.zero_le _⟩

namespace S6a
open Gx (dictBase dict3gpp searchMsg originHost originRealm resultCode experimentalResult
  experimentalResultCode)

/-! ## The dictionary -/

def userName : AvpModel := dictBase 1
def authApplicationId : AvpModel := dictBase 258
def vendorSpecificApplicationId : AvpModel := dictBase 260
def sessionId : AvpModel := dictBase 263
def vendorId : AvpModel := dictBase 266
def authSessionState : AvpModel := dictBase 277
def destinationRealm : AvpModel := dictBase 283
def mipHomeAgentAddress : AvpModel := dictBase 334
def mip6AgentInfo : AvpModel := dictBase 486
def serviceSelection : AvpModel := dictBase 493
def ratType : AvpModel := dict3gpp 1032
def subscriptionData : AvpModel := dict3gpp 1400
def ulrFlags : AvpModel := dict3gpp 1405
def ulaFlags : AvpModel := dict3gpp 1406
def visitedPlmnId : AvpModel := dict3gpp 1407
def reqEutranAuthInfo : AvpModel := dict3gpp 1408
def numberOfRequestedVectors : AvpModel := dict3gpp 1410
def reSynchronizationInfo : AvpModel := dict3gpp 1411
def immediateResponsePreferred : AvpModel := dict3gpp 1412
def authenticationInfo : AvpModel := dict3gpp 1413
def eUtranVector : AvpModel := dict3gpp 1414
def networkAccessMode : AvpModel := dict3gpp 1417
def contextIdentifier : AvpModel := dict3gpp 1423
def subscriberStatus : AvpModel := dict3gpp 1424
def accessRestrictionData : AvpModel := dict3gpp 1426
def allApnConfigurationIncludedIndicator : AvpModel := dict3gpp 1428
def apnConfigurationProfile : AvpModel := dict3gpp 1429
def apnConfiguration : AvpModel := dict3gpp 1430
def epsSubscribedQosProfile : AvpModel := dict3gpp 1431
def ambr : AvpModel := dict3gpp 1435
def rand : AvpModel := dict3gpp 1447
def xres : AvpModel := dict3gpp 1448
def autn : AvpModel := dict3gpp 1449
def kasme : AvpModel := dict3gpp 1450
def pdnType : AvpModel := dict3gpp 1456
def ueSrvccCapability : AvpModel := dict3gpp 1615
def subscribedRauTauTimer : AvpModel := dict3gpp 1619

/-- `OGS_3GPP_VENDOR_ID` -/
def ogs3gppVendorId : UInt32 := 10415

/-- `OGS_DIAM_S6A_APPLICATION_ID` -/
def applicationId : UInt32 := 16777251

/-- `OGS_DIAM_S6A_AUTHENTICATION_DATA_UNAVAILABLE` -/
def authenticationDataUnavailable : UInt32 := 4181

/-- `OGS_DIAM_S6A_ERROR_USER_UNKNOWN` -/
def errorUserUnknown : UInt32 := 5001

/-! ## What all messages have -/

/-- `cnf_diamid` and `cnf_diamrlm` of a node -/
structure DiamHost where
  diamid : Bytes
  diamrlm : Bytes
  deriving DecidableEq, Repr

/-- `fd_msg_add_origin` -/
def addOrigin (host : DiamHost) : List Avp :=
  [.octetString originHost host.diamid, .octetString originRealm host.diamrlm]

/-- `ogs_diam_message_vendor_specific_appid_set` -/
def vendorSpecificAppidSet (appId : UInt32) : Avp :=
  .grouped vendorSpecificApplicationId
    [.word vendorId ogs3gppVendorId, .word authApplicationId appId]

/-- `fd_msg_rescode_set(ans, "DIAMETER_SUCCESS", NULL, NULL, 1)` -/
def rescodeSet (host : DiamHost) : List Avp :=
  addOrigin host ++ [.word resultCode erDiameterSuccess]

/-- `ogs_diam_message_experimental_rescode_set` -/
def experimentalRescodeSet (host : DiamHost) (code : UInt32) : List Avp :=
  .grouped experimentalResult [.word vendorId ogs3gppVendorId, .word experimentalResultCode code] ::
    addOrigin host

/-- `fd_msg_new_answer_from_req`: the answer is of the same session. -/
def newAnswerFromReq (qry : List Avp) : List Avp := (searchMsg qry sessionId).toList

/-- The AVPs in front of the User-Name of a request. -/
def newRequest (host : DiamHost) (sid : Bytes) : List Avp :=
  .octetString sessionId sid :: .word authSessionState 1 :: addOrigin host ++
    [.octetString destinationRealm host.diamrlm]

/-- The end of both handlers of the HSS, behind the label `out`. -/
def hssOut (host : DiamHost) (qry : List Avp) (code : UInt32) : List Avp :=
  newAnswerFromReq qry ++ experimentalRescodeSet host code ++
    [.word authSessionState 1, vendorSpecificAppidSet applicationId]

/-- The IMSI of a request, as the HSS looks for it in the database. -/
def requestImsi (qry : List Avp) : Option (CArray ogsMaxImsiBcdLen) := do
  let avp ← searchMsg qry userName
  let data ← avp.os
  some (.copy _ data)

/-- The beginning of both callbacks of the MME: the result, as in `pgw_gx_cca_cb`, and the number
of errors with those for the origin. -/
def answerResult (avps : List Avp) : Option (UInt32 × Nat) := do
  let (result, error) ← Gx.ccaResult avps
  some (result, error + (if (searchMsg avps originHost).isNone then 1 else 0) +
    (if (searchMsg avps originRealm).isNone then 1 else 0))

/-- A callback of the MME pushes an event if it has counted no errors. -/
def pushIfFree {α : Type} (st : α × Nat) : Option α := if st.2 = 0 then some st.1 else none

end S6a
end NextEpc

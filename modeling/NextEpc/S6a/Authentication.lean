import NextEpc.Hss.Air
import NextEpc.Mme.Emm
import NextEpc.S6a.Message

/-!
# Authentication vectors on their way to the MME

`mme_s6a_send_air` and `mme_s6a_aia_cb` of the MME, with the AVPs of `hss_ogs_diam_s6a_air_cb` in
between. The vector of the HSS arrives as it was made; so does the code of each failure. Of the
answers of other nodes, here is exactly which ones are read to their end.
-/

namespace NextEpc

/-- `OGS_MAX_RES_LEN` -/
def ogsMaxResLen : Nat := 16

/-- `memcpy` to the beginning of an array of `n` octets that is cleared -/
def copyCleared (n : Nat) (data : Bytes) : Option (Vector UInt8 n) :=
  if h : data.length ≤ n then
    some ⟨(data ++ List.replicate (n - data.length) 0).toArray, by simp; omega⟩
  else none

theorem copyCleared_toList {n : Nat} (v : Vector UInt8 n) : copyCleared n v.toList = some v := by
  have hlen : v.toList.length = n := v.length_toList
  rw [copyCleared, dif_pos hlen.le]
  congr 1
  apply Vector.toList_inj.mp
  simp

theorem isSome_copyCleared {n : Nat} {data : Bytes} :
    (copyCleared n data).isSome ↔ data.length ≤ n := by
  unfold copyCleared
  split <;> simp_all

namespace S6a
open Gx (searchMsg)

/-! ## The MME asks -/

/-- `mme_s6a_send_air`. The Re-Synchronization-Info is RAND and AUTS. -/
def mmeS6aSendAir (host : DiamHost) (sid : Bytes) (imsiBcd : CArray ogsMaxImsiBcdLen)
    (rand : Octets16) (auts : Option (Vector UInt8 14)) (plmnId : Vector UInt8 3) : List Avp :=
  newRequest host sid ++
    [.octetString userName imsiBcd.octets,
      .grouped reqEutranAuthInfo
        ([.word numberOfRequestedVectors 1, .word immediateResponsePreferred 1] ++
          match auts with
          | some auts => [.octetString S6a.reSynchronizationInfo (rand.toList ++ auts.toList)]
          | none => []),
      .octetString visitedPlmnId plmnId.toList, vendorSpecificAppidSet applicationId]

/-! ## The HSS answers -/

/-- The octets from `off` on, as far as an array of `n` octets needs them. -/
def slice (n off : Nat) (data : Bytes) : Option (Vector UInt8 n) :=
  if h : off + n ≤ data.length then
    some ⟨((data.drop off).take n).toArray, by simp; omega⟩
  else none

/-- The Re-Synchronization-Info that `hss_auc_sqn` gets, the MAC-S behind it. -/
def reSynchronization (qry : List Avp) : Option (Option ReSynchronizationInfo) :=
  match searchMsg qry reqEutranAuthInfo with
  | none => some none
  | some avp => do
    match ← avp.searchAvp S6a.reSynchronizationInfo with
    | none => some none
    | some avpch => do
      let data ← avpch.os
      let rand ← slice 16 0 data
      let concSqnMs ← slice 6 16 data
      let macS ← slice 8 22 data
      some (some ⟨rand, concSqnMs, macS⟩)

/-- What the HSS reads of a request that has all its AVPs. -/
def airRequest (qry : List Avp) : Option AirRequest := do
  let auts ← reSynchronization qry
  let avp ← searchMsg qry visitedPlmnId
  let data ← avp.os
  let plmnId ← slice 3 0 data
  some ⟨auts, plmnId⟩

def encodeEUtranVector (vector : HssEUtranVector) : Avp :=
  .grouped authenticationInfo [.grouped eUtranVector
    [.octetString S6a.rand vector.rand.toList, .octetString S6a.xres vector.xres.toList,
      .octetString S6a.autn vector.autn.toList, .octetString S6a.kasme vector.kasme.toList]]

/-- The failures that the HSS answers with. -/
inductive AirFailure
  | userUnknown
  | authenticationDataUnavailable
  deriving DecidableEq, Repr

/-- `result_code` at the label `out` -/
def AirFailure.resultCode : AirFailure → UInt32
  | userUnknown => errorUserUnknown
  | authenticationDataUnavailable => S6a.authenticationDataUnavailable

/-- `hss_ogs_diam_s6a_air_cb` around the database and the AuC, which give a vector or
fail -/
def hssAirCb (auc : CArray ogsMaxImsiBcdLen → AirRequest → Except AirFailure HssEUtranVector)
    (host : DiamHost) (qry : List Avp) : Option (List Avp) := do
  let imsiBcd ← requestImsi qry
  let request ← airRequest qry
  match auc imsiBcd request with
  | .ok vector => some (newAnswerFromReq qry ++ [encodeEUtranVector vector] ++ rescodeSet host ++
      [.word authSessionState 1, vendorSpecificAppidSet applicationId])
  | .error failure => some (hssOut host qry failure.resultCode)

/-! ## The MME reads the answer -/

/-- The record that `memset` leaves. -/
def clearedVector : EUtranVector :=
  ⟨[], Vector.replicate 32 0, Vector.replicate 16 0, Vector.replicate 16 0⟩

/-- The octets of a member of the vector. A member that is missing ends the program. -/
def vectorMember (avp : Avp) (what : AvpModel) : Option Bytes := do
  let found ← avp.searchAvp what
  let member ← found
  member.os

/-- The E-UTRAN-Vector is read into the record. Where RAND is missing, `hdr` is still that of
KASME. -/
def decodeEUtranVector (avp : Avp) : Option EUtranVector := do
  let xres ← vectorMember avp S6a.xres
  let kasme ← vectorMember avp S6a.kasme
  let rand ← match ← avp.searchAvp S6a.rand with
    | some member => member.os
    | none => some kasme
  let autn ← vectorMember avp S6a.autn
  let _ ← copyCleared ogsMaxResLen xres
  let kasme ← copyCleared 32 kasme
  let rand ← copyCleared 16 rand
  let autn ← copyCleared 16 autn
  some ⟨xres, kasme, rand, autn⟩

/-- What `ogs_diam_s6a_message_t` has of an Authentication-Information-Answer. -/
structure AiaMessage where
  resultCode : UInt32
  eUtranVector : EUtranVector
  deriving DecidableEq

/-- `mme_s6a_aia_cb`: the message, and the number of errors. An error counted behind the result
never reaches the end, since the group that is missing is searched all the same. -/
def decodeAia (avps : List Avp) : Option (AiaMessage × Nat) := do
  let (result, error) ← answerResult avps
  if result ≠ erDiameterSuccess then some (⟨result, clearedVector⟩, error)
  else do
    let info ← searchMsg avps authenticationInfo
    let found ← info.searchAvp eUtranVector
    let avp ← found
    let vector ← decodeEUtranVector avp
    some (⟨result, vector⟩, error)

/-- The event that `mme_s6a_aia_cb` pushes. -/
def mmeS6aAiaCb (avps : List Avp) : Option (Option AiaMessage) := (decodeAia avps).map pushIfFree

/-! ## The exchange -/

theorem slice_append {n off : Nat} {a : Bytes} (ha : a.length = off) (v : Vector UInt8 n)
    (b : Bytes) : slice n off (a ++ (v.toList ++ b)) = some v := by
  have hlen : v.toList.length = n := v.length_toList
  have hle : off + n ≤ (a ++ (v.toList ++ b)).length := by
    simp only [List.length_append, hlen]
    omega
  rw [slice, dif_pos hle]
  congr 1
  apply Vector.toList_inj.mp
  simp [← ha, hlen]

/-- AUTS, as the HSS reads it with the RAND of the MME. -/
def splitAuts (rand : Octets16) (auts : Vector UInt8 14) : ReSynchronizationInfo where
  rand := rand
  concSqnMs := ⟨(auts.toList.take 6).toArray, by simp⟩
  macS := ⟨(auts.toList.drop 6).toArray, by simp⟩

theorem reSynchronization_some (mme : DiamHost) (sid : Bytes) (imsiBcd : CArray ogsMaxImsiBcdLen)
    (rand : Octets16) (auts : Vector UInt8 14) (plmnId : Vector UInt8 3) :
    reSynchronization (mmeS6aSendAir mme sid imsiBcd rand (some auts) plmnId) =
      some (some (splitAuts rand auts)) := by
  have hrand : rand.toList.length = 16 := rand.length_toList
  have hauts : (splitAuts rand auts).concSqnMs.toList ++ (splitAuts rand auts).macS.toList =
      auts.toList := by
    simp [splitAuts]
  have hconc : (splitAuts rand auts).concSqnMs.toList.length = 6 := Vector.length_toList
  have hfirst : slice 16 0 (rand.toList ++ auts.toList) = some rand := by
    simpa using slice_append (a := []) rfl rand auts.toList
  have hsecond : slice 6 16 (rand.toList ++ auts.toList) =
      some (splitAuts rand auts).concSqnMs := by
    rw [← hauts]
    exact slice_append hrand _ _
  have hthird : slice 8 22 (rand.toList ++ auts.toList) = some (splitAuts rand auts).macS := by
    have hlen : (rand.toList ++ (splitAuts rand auts).concSqnMs.toList).length = 22 := by
      rw [List.length_append, hrand, hconc]
    have happ := slice_append hlen (splitAuts rand auts).macS []
    rwa [List.append_nil, List.append_assoc, hauts] at happ
  have hfind : searchMsg (mmeS6aSendAir mme sid imsiBcd rand (some auts) plmnId)
      reqEutranAuthInfo = some (.grouped reqEutranAuthInfo
        [.word numberOfRequestedVectors 1, .word immediateResponsePreferred 1,
          .octetString S6a.reSynchronizationInfo (rand.toList ++ auts.toList)]) := rfl
  have hmember : (Avp.grouped reqEutranAuthInfo
      [.word numberOfRequestedVectors 1, .word immediateResponsePreferred 1,
        .octetString S6a.reSynchronizationInfo (rand.toList ++ auts.toList)]).searchAvp
          S6a.reSynchronizationInfo = some (some (.octetString S6a.reSynchronizationInfo
            (rand.toList ++ auts.toList))) := rfl
  rw [reSynchronization, hfind]
  simp [hmember, hfirst, hsecond, hthird]
  rfl

/-- The members of an E-UTRAN-Vector of the HSS. -/
theorem decodeEUtranVector_encode (v : HssEUtranVector) :
    decodeEUtranVector (.grouped eUtranVector
      [.octetString S6a.rand v.rand.toList, .octetString S6a.xres v.xres.toList,
        .octetString S6a.autn v.autn.toList, .octetString S6a.kasme v.kasme.toList]) =
      some ⟨v.xres.toList, v.kasme, v.rand, v.autn⟩ := by
  have hxres : (copyCleared ogsMaxResLen v.xres.toList).isSome = true := by
    rw [isSome_copyCleared, v.xres.length_toList]
    decide
  obtain ⟨xres, hxres⟩ := Option.isSome_iff_exists.mp hxres
  simp [decodeEUtranVector, vectorMember, Avp.searchAvp, S6a.rand, S6a.xres, S6a.autn, S6a.kasme,
    Gx.dict3gpp, hxres, copyCleared_toList]

section
variable (auc : CArray ogsMaxImsiBcdLen → AirRequest → Except AirFailure HssEUtranVector)
variable (mme hss : DiamHost) (sid : Bytes) (imsiBcd : CArray ogsMaxImsiBcdLen)
variable (rand : Octets16) (auts : Option (Vector UInt8 14)) (plmnId : Vector UInt8 3)

/-- The HSS reads what the MME has written. -/
theorem airRequest_mmeS6aSendAir : airRequest (mmeS6aSendAir mme sid imsiBcd rand auts plmnId) =
    some ⟨auts.map (splitAuts rand), plmnId⟩ := by
  have hplmnId : searchMsg (mmeS6aSendAir mme sid imsiBcd rand auts plmnId) visitedPlmnId =
      some (.octetString visitedPlmnId plmnId.toList) := rfl
  have hslice : slice 3 0 plmnId.toList = some plmnId := by
    simpa using slice_append (a := []) rfl plmnId []
  have hauts : reSynchronization (mmeS6aSendAir mme sid imsiBcd rand auts plmnId) =
      some (auts.map (splitAuts rand)) := by
    cases auts with
    | none => rfl
    | some auts =>
      exact reSynchronization_some mme sid imsiBcd rand auts plmnId
  rw [airRequest, hauts, hplmnId]
  simp [hslice]

/-- What the MME gets for its request is what the AuC has made of it: the vector, or the code of
the failure. -/
theorem mmeS6aAiaCb_hssAirCb :
    (hssAirCb auc hss (mmeS6aSendAir mme sid imsiBcd rand auts plmnId)).bind mmeS6aAiaCb =
      some (some (match auc imsiBcd ⟨auts.map (splitAuts rand), plmnId⟩ with
        | .ok v => ⟨erDiameterSuccess, v.xres.toList, v.kasme, v.rand, v.autn⟩
        | .error failure => ⟨failure.resultCode, clearedVector⟩)) := by
  have himsi : requestImsi (mmeS6aSendAir mme sid imsiBcd rand auts plmnId) = some imsiBcd := by
    have hfind : searchMsg (mmeS6aSendAir mme sid imsiBcd rand auts plmnId) userName =
        some (.octetString userName imsiBcd.octets) := rfl
    simp [requestImsi, hfind]
  rw [hssAirCb, himsi, airRequest_mmeS6aSendAir]
  cases hauc : auc imsiBcd ⟨auts.map (splitAuts rand), plmnId⟩ with
  | ok v =>
    let answer := Avp.octetString sessionId sid :: encodeEUtranVector v :: (rescodeSet hss ++
      [.word authSessionState 1, vendorSpecificAppidSet applicationId])
    have hresult : answerResult answer = some (erDiameterSuccess, 0) := rfl
    have hinfo : searchMsg answer authenticationInfo = some (encodeEUtranVector v) := rfl
    have hgroup : (encodeEUtranVector v).searchAvp eUtranVector = some (some (.grouped eUtranVector
        [.octetString S6a.rand v.rand.toList, .octetString S6a.xres v.xres.toList,
          .octetString S6a.autn v.autn.toList, .octetString S6a.kasme v.kasme.toList])) := rfl
    have hsent : newAnswerFromReq (mmeS6aSendAir mme sid imsiBcd rand auts plmnId) ++
        [encodeEUtranVector v] ++ rescodeSet hss ++
          [.word authSessionState 1, vendorSpecificAppidSet applicationId] = answer := rfl
    have hread : mmeS6aAiaCb answer =
        some (some ⟨erDiameterSuccess, v.xres.toList, v.kasme, v.rand, v.autn⟩) := by
      simp [mmeS6aAiaCb, decodeAia, hresult, hinfo, hgroup, decodeEUtranVector_encode, pushIfFree]
    simp only [Option.bind_eq_bind, Option.bind_some, hauc, hsent, hread]
  | error failure =>
    cases failure with
    | userUnknown => simp [hauc]; rfl
    | authenticationDataUnavailable => simp [hauc]; rfl

end

end S6a
end NextEpc

import NextEpc.Nas.Ie

/-!
# The information elements of TS 24.301

Each element with the size of its record, in the order of the source.
-/

namespace NextEpc

/-! ## Conversions -/

namespace NasConversion
variable {w : Nat}

/-- Nothing is done. -/
def id (w : Nat) : NasConversion w where
  apply image := image
  length_apply _ := rfl
  take_apply _ := rfl

theorem take_append_of_le_length' {image front back : Bytes} {n : Nat} (hn : w ≤ n)
    (hfront : front = image.take n) (hlen : (front ++ back).length = image.length) :
    (front ++ back).take w = image.take w := by
  subst hfront
  rw [List.take_append, List.take_take, Nat.min_eq_left hn, List.length_take]
  by_cases h : n ≤ image.length
  · rw [Nat.min_eq_left h, Nat.sub_eq_zero_of_le hn, List.take_zero, List.append_nil]
  · rw [List.length_append, List.length_take] at hlen
    have hback : back = [] := List.length_eq_zero_iff.mp (by omega)
    rw [hback, List.take_nil, List.append_nil]

theorem take_swapAt {offset width : Nat} (h : w ≤ offset) (image : Bytes) :
    (swapAt offset width image).take w = image.take w := by
  have hlen : (swapAt offset width image).length = image.length := length_swapAt
  rw [swapAt, List.append_assoc] at hlen ⊢
  exact take_append_of_le_length' h rfl hlen

theorem take_setUpper {offset : Nat} (h : w ≤ offset) (half : UInt8) (image : Bytes) :
    (setUpper offset half image).take w = image.take w := by
  refine List.ext_getElem? fun i => ?_
  by_cases hi : i < w
  · have hne : offset ≠ i := by omega
    rw [List.getElem?_take_of_lt hi, List.getElem?_take_of_lt hi, setUpper,
      List.getElem?_modify_ne _ _ hne]
  · rw [List.getElem?_eq_none (by rw [List.length_take]; omega),
      List.getElem?_eq_none (by rw [List.length_take]; omega)]

/-- `ntohs`, `ntohl` and the way back of a field -/
def swap (w offset width : Nat) (h : w ≤ offset) : NasConversion w where
  apply := swapAt offset width
  length_apply _ := length_swapAt
  take_apply := take_swapAt h

/-- The upper half of an octet is set. -/
def upper (w offset : Nat) (half : UInt8) (h : w ≤ offset) : NasConversion w where
  apply := setUpper offset half
  length_apply _ := length_setUpper half
  take_apply := take_setUpper h half

/-- One after the other -/
def andThen (c d : NasConversion w) : NasConversion w where
  apply image := d.apply (c.apply image)
  length_apply image := by rw [d.length_apply, c.length_apply]
  take_apply image := by rw [d.take_apply, c.take_apply]

/-- Only if the lower three bits of the octet behind the length are `type` -/
def ofType (type : UInt8) (c : NasConversion w) : NasConversion w where
  apply image := if image.getD 1 0 &&& 7 = type then c.apply image else image
  length_apply image := by
    split_ifs
    · exact c.length_apply image
    · rfl
  take_apply image := by
    split_ifs
    · exact c.take_apply image
    · rfl

end NasConversion

namespace NasIe

/-- A record that is copied as it is -/
def plain (format : NasFormat) (sizeof : Nat) : NasIe :=
  .copied ⟨format, sizeof, .id _, .id _⟩

/-- A record with a field of `width` octets -/
def swapped (format : NasFormat) (sizeof offset width : Nat) (h : format.lengthWidth ≤ offset) :
    NasIe :=
  .copied ⟨format, sizeof, .swap _ offset width h, .swap _ offset width h⟩

/-! ## The elements -/

def additionalInformation : NasIe := plain .lengthValue 256
def deviceProperties : NasIe := .half
def epsBearerContextStatus : NasIe := plain .lengthValue 3
def supportedCodecList : NasIe := plain .lengthValue 33
def locationAreaIdentification : NasIe := swapped (.value 5) 5 3 2 (by decide)

/-- `OGS_NAS_MOBILE_IDENTITY_TMSI` -/
def mobileIdentityTmsi : UInt8 := 4

def mobileIdentity : NasIe := .copied {
  format := .lengthValue
  sizeof := 9
  toHost := .ofType mobileIdentityTmsi (.swap _ 2 4 (by decide))
  toNetwork := .ofType mobileIdentityTmsi
    (.andThen (.swap _ 2 4 (by decide)) (.upper _ 1 0xf (by decide))) }

def mobileStationClassmark2 : NasIe := plain .lengthValue 4
def mobileStationClassmark3 : NasIe := plain .lengthValue 33
def plmnList : NasIe := plain .lengthValue 46
def additionalUpdateResult : NasIe := .half
def additionalUpdateType : NasIe := .half
def authenticationFailureParameter : NasIe := plain .lengthValue 15
def epsAttachResult : NasIe := plain (.value 1) 1
def epsAttachType : NasIe := plain (.value 1) 1

/-- `OGS_NAS_EPS_MOBILE_IDENTITY_GUTI` -/
def epsMobileIdentityGuti : UInt8 := 6

def epsMobileIdentity : NasIe := .copied {
  format := .lengthValue
  sizeof := 12
  toHost := .ofType epsMobileIdentityGuti
    (.andThen (.swap _ 5 2 (by decide)) (.swap _ 8 4 (by decide)))
  toNetwork := .ofType epsMobileIdentityGuti (.andThen (.upper _ 1 0xf (by decide))
    (.andThen (.swap _ 5 2 (by decide)) (.swap _ 8 4 (by decide)))) }

def epsNetworkFeatureSupport : NasIe := plain .lengthValue 3
def epsUpdateResult : NasIe := plain (.value 1) 1
def epsUpdateType : NasIe := plain (.value 1) 1
def esmMessageContainer : NasIe := .container
def gprsTimer : NasIe := plain (.value 1) 1
def gprsTimer2 : NasIe := plain .lengthValue 2
def gprsTimer3 : NasIe := plain .lengthValue 2
def identityType2 : NasIe := plain (.value 1) 1
def imeisvRequest : NasIe := .half
def ksiAndSequenceNumber : NasIe := plain (.value 1) 1
def authenticationParameterAutn : NasIe := plain .lengthValue 17
def msNetworkCapability : NasIe := plain .lengthValue 5
def msNetworkFeatureSupport : NasIe := .half
def keySetIdentifier : NasIe := .half
def messageContainer : NasIe := plain .lengthValue 251
def securityAlgorithms : NasIe := plain (.value 1) 1
def networkName : NasIe := plain .lengthValue 257
def networkResourceIdentifierContainer : NasIe := plain .lengthValue 3
def nonce : NasIe := swapped (.value 4) 4 0 4 (by decide)
def pagingIdentity : NasIe := plain (.value 1) 1

/-- Three octets of a `uint32_t`, which are only turned around when they have been read: the encoder
turns the record around after it has copied it. -/
def pTmsiSignature : NasIe := .copied {
  format := .value 3
  sizeof := 4
  toHost := .swap _ 0 4 (by decide)
  toNetwork := .id _ }

def extendedEmmCause : NasIe := .half
def serviceType : NasIe := plain (.value 1) 1
def shortMac : NasIe := swapped (.value 2) 2 0 2 (by decide)
def timeZone : NasIe := plain (.value 1) 1
def authenticationParameterRand : NasIe := plain (.value 16) 16
def timeZoneAndTime : NasIe := plain (.value 7) 7
def tmsiStatus : NasIe := .half
def trackingAreaIdentity : NasIe := swapped (.value 5) 5 3 2 (by decide)
def trackingAreaIdentityList : NasIe := plain .lengthValue 97
def ueNetworkCapability : NasIe := plain .lengthValue 8
def ueRadioCapabilityInformationUpdateNeeded : NasIe := .half
def ueSecurityCapability : NasIe := plain .lengthValue 6
def emergencyNumberList : NasIe := plain .lengthValue16 50
def cli : NasIe := plain .lengthValue 13
def ssCode : NasIe := plain (.value 1) 1
def authenticationResponseParameter : NasIe := plain .lengthValue 17
def lcsIndicator : NasIe := plain (.value 1) 1
def lcsClientIdentity : NasIe := plain .lengthValue 256
def genericMessageContainerType : NasIe := plain (.value 1) 1
def genericMessageContainer : NasIe := .container
def voiceDomainPreferenceAndUeUsageSetting : NasIe := plain .lengthValue 2
def gutiType : NasIe := .half
def extendedDrxParameters : NasIe := plain .lengthValue 2
def cipheringKeySequenceNumber : NasIe := .half
def csfbResponse : NasIe := .half
def daylightSavingTime : NasIe := plain .lengthValue 2
def detachType : NasIe := plain (.value 1) 1
def drxParameter : NasIe := plain (.value 2) 2
def emmCause : NasIe := plain (.value 1) 1
def protocolConfigurationOptions : NasIe := plain .lengthValue 252
def qualityOfService : NasIe := plain .lengthValue 21
def radioPriority : NasIe := .half
def reAttemptIndicator : NasIe := plain .lengthValue 2
def requestType : NasIe := plain (.value 1) 1
def trafficFlowAggregateDescription : NasIe := plain .lengthValue 256
def trafficFlowTemplate : NasIe := plain .lengthValue 256
def transactionIdentifier : NasIe := plain .lengthValue 3
def wlanOffloadAcceptability : NasIe := .half
def nbifomContainer : NasIe := plain .lengthValue 256
def apnAggregateMaximumBitRate : NasIe := plain .lengthValue 7
def headerCompressionConfiguration : NasIe := swapped .lengthValue 260 2 2 (by decide)
def controlPlaneOnlyIndication : NasIe := .half
def extendedProtocolConfigurationOptions : NasIe := .container
def headerCompressionConfigurationStatus : NasIe := plain .lengthValue 3
def servingPlmnRateControl : NasIe := plain .lengthValue 3
def connectivityType : NasIe := .half
def epsQualityOfService : NasIe := plain .lengthValue 14
def esmCause : NasIe := plain (.value 1) 1
def esmInformationTransferFlag : NasIe := .half
def linkedEpsBearerIdentity : NasIe := plain (.value 1) 1
def llcServiceAccessPointIdentifier : NasIe := plain (.value 1) 1
def packetFlowIdentifier : NasIe := plain .lengthValue 2
def pdnAddress : NasIe := plain .lengthValue 14

end NasIe

end NextEpc

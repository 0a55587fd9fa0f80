import NextEpc.Nas.Ies

/-!
# The messages of TS 24.301

A message has elements that are always there, one after the other, and elements behind a tag. The
encoder writes the latter in the order of the table, and the decoder reads them in any order. From
0x80 on, a tag is the upper half of an octet.
-/

namespace NextEpc

/-- The `type` of an octet -/
def nasTag (octet : UInt8) : UInt8 := if 0x80 ≤ octet then octet &&& 0xf0 else octet

/-- A function of the decoder and one of the encoder -/
structure NasMessageType where
  mandatory : List NasIe
  optional : List (UInt8 × NasIe)
  distinct : (optional.map Prod.fst).Nodup := by decide
  nasTag_eq : ∀ e ∈ optional, nasTag e.1 = e.1 := by decide
  isHalf_iff : ∀ e ∈ optional, e.2.isHalf = true ↔ 0x80 ≤ e.1 := by decide

namespace NasMessageType

/-- A message without elements -/
def empty : NasMessageType where
  mandatory := []
  optional := []

def attachRequest : NasMessageType where
  mandatory := [.epsAttachType, .epsMobileIdentity, .ueNetworkCapability, .esmMessageContainer]
  optional := [
    (0x19, .pTmsiSignature), -- old_p_tmsi_signature
    (0x50, .epsMobileIdentity), -- additional_guti
    (0x52, .trackingAreaIdentity), -- last_visited_registered_tai
    (0x5c, .drxParameter),
    (0x31, .msNetworkCapability),
    (0x13, .locationAreaIdentification), -- old_location_area_identification
    (0x90, .tmsiStatus),
    (0x11, .mobileStationClassmark2),
    (0x20, .mobileStationClassmark3),
    (0x40, .supportedCodecList), -- supported_codecs
    (0xf0, .additionalUpdateType),
    (0x5d, .voiceDomainPreferenceAndUeUsageSetting),
    (0xd0, .deviceProperties),
    (0xe0, .gutiType), -- old_guti_type
    (0xc0, .msNetworkFeatureSupport),
    (0x10, .networkResourceIdentifierContainer), -- tmsi_based_nri_container
    (0x6a, .gprsTimer2), -- t3324_value
    (0x5e, .gprsTimer3), -- t3412_extended_value
    (0x6e, .extendedDrxParameters)]

def attachAccept : NasMessageType where
  mandatory := [.epsAttachResult, .gprsTimer, .trackingAreaIdentityList, .esmMessageContainer]
  optional := [
    (0x50, .epsMobileIdentity), -- guti
    (0x13, .locationAreaIdentification),
    (0x23, .mobileIdentity), -- ms_identity
    (0x53, .emmCause),
    (0x17, .gprsTimer), -- t3402_value
    (0x59, .gprsTimer), -- t3423_value
    (0x4a, .plmnList), -- equivalent_plmns
    (0x34, .emergencyNumberList),
    (0x64, .epsNetworkFeatureSupport),
    (0xf0, .additionalUpdateResult),
    (0x5e, .gprsTimer3), -- t3412_extended_value
    (0x6a, .gprsTimer2), -- t3324_value
    (0x6e, .extendedDrxParameters)]

def attachComplete : NasMessageType where
  mandatory := [.esmMessageContainer]
  optional := []

def attachReject : NasMessageType where
  mandatory := [.emmCause]
  optional := [
    (0x78, .esmMessageContainer),
    (0x5f, .gprsTimer2), -- t3346_value
    (0x16, .gprsTimer2), -- t3402_value
    (0xa0, .extendedEmmCause)]

def detachRequestFromUe : NasMessageType where
  mandatory := [.detachType, .epsMobileIdentity]
  optional := []

def detachRequestToUe : NasMessageType where
  mandatory := [.detachType]
  optional := [
    (0x53, .emmCause)]

def trackingAreaUpdateRequest : NasMessageType where
  mandatory := [.epsUpdateType, .epsMobileIdentity]
  optional := [
    (0xb0, .keySetIdentifier), -- non_current_native_nas_key_set_identifier
    (0x80, .cipheringKeySequenceNumber), -- gprs_ciphering_key_sequence_number
    (0x19, .pTmsiSignature), -- old_p_tmsi_signature
    (0x50, .epsMobileIdentity), -- additional_guti
    (0x55, .nonce), -- nonceue
    (0x58, .ueNetworkCapability),
    (0x52, .trackingAreaIdentity), -- last_visited_registered_tai
    (0x5c, .drxParameter),
    (0xa0, .ueRadioCapabilityInformationUpdateNeeded),
    (0x57, .epsBearerContextStatus),
    (0x31, .msNetworkCapability),
    (0x13, .locationAreaIdentification), -- old_location_area_identification
    (0x90, .tmsiStatus),
    (0x11, .mobileStationClassmark2),
    (0x20, .mobileStationClassmark3),
    (0x40, .supportedCodecList), -- supported_codecs
    (0xf0, .additionalUpdateType),
    (0x5d, .voiceDomainPreferenceAndUeUsageSetting),
    (0xe0, .gutiType), -- old_guti_type
    (0xd0, .deviceProperties),
    (0xc0, .msNetworkFeatureSupport),
    (0x10, .networkResourceIdentifierContainer), -- tmsi_based_nri_container
    (0x6a, .gprsTimer2), -- t3324_value
    (0x5e, .gprsTimer3), -- t3412_extended_value
    (0x6e, .extendedDrxParameters)]

def trackingAreaUpdateAccept : NasMessageType where
  mandatory := [.epsUpdateResult]
  optional := [
    (0x5a, .gprsTimer), -- t3412_value
    (0x50, .epsMobileIdentity), -- guti
    (0x54, .trackingAreaIdentityList), -- tai_list
    (0x57, .epsBearerContextStatus),
    (0x13, .locationAreaIdentification),
    (0x23, .mobileIdentity), -- ms_identity
    (0x53, .emmCause),
    (0x17, .gprsTimer), -- t3402_value
    (0x59, .gprsTimer), -- t3423_value
    (0x4a, .plmnList), -- equivalent_plmns
    (0x34, .emergencyNumberList),
    (0x64, .epsNetworkFeatureSupport),
    (0xf0, .additionalUpdateResult),
    (0x5e, .gprsTimer3), -- t3412_extended_value
    (0x6a, .gprsTimer2), -- t3324_value
    (0x6e, .extendedDrxParameters),
    (0x68, .headerCompressionConfigurationStatus)]

def trackingAreaUpdateReject : NasMessageType where
  mandatory := [.emmCause]
  optional := [
    (0x5f, .gprsTimer2), -- t3346_value
    (0xa0, .extendedEmmCause)]

def extendedServiceRequest : NasMessageType where
  mandatory := [.serviceType, .mobileIdentity]
  optional := [
    (0xb0, .csfbResponse),
    (0x57, .epsBearerContextStatus),
    (0xd0, .deviceProperties)]

def serviceRequest : NasMessageType where
  mandatory := [.ksiAndSequenceNumber, .shortMac]
  optional := []

def serviceReject : NasMessageType where
  mandatory := [.emmCause]
  optional := [
    (0x5f, .gprsTimer2)] -- t3346_value

def gutiReallocationCommand : NasMessageType where
  mandatory := [.epsMobileIdentity]
  optional := [
    (0x54, .trackingAreaIdentityList)] -- tai_list

def authenticationRequest : NasMessageType where
  mandatory := [.keySetIdentifier, .authenticationParameterRand, .authenticationParameterAutn]
  optional := []

def authenticationResponse : NasMessageType where
  mandatory := [.authenticationResponseParameter]
  optional := []

def identityRequest : NasMessageType where
  mandatory := [.identityType2]
  optional := []

def identityResponse : NasMessageType where
  mandatory := [.mobileIdentity]
  optional := []

def authenticationFailure : NasMessageType where
  mandatory := [.emmCause]
  optional := [
    (0x30, .authenticationFailureParameter)]

def securityModeCommand : NasMessageType where
  mandatory := [.securityAlgorithms, .keySetIdentifier, .ueSecurityCapability]
  optional := [
    (0xc0, .imeisvRequest),
    (0x55, .nonce), -- replayed_nonceue
    (0x56, .nonce)] -- noncemme

def securityModeComplete : NasMessageType where
  mandatory := []
  optional := [
    (0x23, .mobileIdentity)] -- imeisv

def securityModeReject : NasMessageType where
  mandatory := [.emmCause]
  optional := []

def emmStatus : NasMessageType where
  mandatory := [.emmCause]
  optional := []

def emmInformation : NasMessageType where
  mandatory := []
  optional := [
    (0x43, .networkName), -- full_name_for_network
    (0x45, .networkName), -- short_name_for_network
    (0x46, .timeZone), -- local_time_zone
    (0x47, .timeZoneAndTime), -- universal_time_and_local_time_zone
    (0x49, .daylightSavingTime)] -- network_daylight_saving_time

def downlinkNasTransport : NasMessageType where
  mandatory := [.messageContainer]
  optional := []

def uplinkNasTransport : NasMessageType where
  mandatory := [.messageContainer]
  optional := []

def csServiceNotification : NasMessageType where
  mandatory := [.pagingIdentity]
  optional := [
    (0x60, .cli),
    (0x61, .ssCode),
    (0x62, .lcsIndicator),
    (0x63, .lcsClientIdentity)]

def uplinkGenericNasTransport : NasMessageType where
  mandatory := [.genericMessageContainerType, .genericMessageContainer]
  optional := [
    (0x65, .additionalInformation)]

def downlinkGenericNasTransport : NasMessageType where
  mandatory := [.genericMessageContainerType, .genericMessageContainer]
  optional := [
    (0x65, .additionalInformation)]

def activateDefaultEpsBearerContextRequest : NasMessageType where
  mandatory := [.epsQualityOfService, .accessPointName, .pdnAddress]
  optional := [
    (0x5d, .transactionIdentifier),
    (0x30, .qualityOfService), -- negotiated_qos
    (0x32, .llcServiceAccessPointIdentifier), -- negotiated_llc_sapi
    (0x80, .radioPriority),
    (0x34, .packetFlowIdentifier),
    (0x5e, .apnAggregateMaximumBitRate), -- apn_ambr
    (0x58, .esmCause),
    (0x27, .protocolConfigurationOptions),
    (0xb0, .connectivityType),
    (0xc0, .wlanOffloadAcceptability), -- wlan_offload_indication
    (0x33, .nbifomContainer),
    (0x66, .headerCompressionConfiguration),
    (0x90, .controlPlaneOnlyIndication),
    (0x7b, .extendedProtocolConfigurationOptions),
    (0x6e, .servingPlmnRateControl)]

def activateDefaultEpsBearerContextAccept : NasMessageType where
  mandatory := []
  optional := [
    (0x27, .protocolConfigurationOptions),
    (0x7b, .extendedProtocolConfigurationOptions)]

def activateDefaultEpsBearerContextReject : NasMessageType where
  mandatory := [.esmCause]
  optional := [
    (0x27, .protocolConfigurationOptions),
    (0x7b, .extendedProtocolConfigurationOptions)]

def activateDedicatedEpsBearerContextRequest : NasMessageType where
  mandatory := [.linkedEpsBearerIdentity, .epsQualityOfService, .trafficFlowTemplate]
  optional := [
    (0x5d, .transactionIdentifier),
    (0x30, .qualityOfService), -- negotiated_qos
    (0x32, .llcServiceAccessPointIdentifier), -- negotiated_llc_sapi
    (0x80, .radioPriority),
    (0x34, .packetFlowIdentifier),
    (0x27, .protocolConfigurationOptions),
    (0xc0, .wlanOffloadAcceptability), -- wlan_offload_indication
    (0x33, .nbifomContainer),
    (0x7b, .extendedProtocolConfigurationOptions)]

def activateDedicatedEpsBearerContextAccept : NasMessageType where
  mandatory := []
  optional := [
    (0x27, .protocolConfigurationOptions),
    (0x33, .nbifomContainer),
    (0x7b, .extendedProtocolConfigurationOptions)]

def activateDedicatedEpsBearerContextReject : NasMessageType where
  mandatory := [.esmCause]
  optional := [
    (0x27, .protocolConfigurationOptions),
    (0x33, .nbifomContainer),
    (0x7b, .extendedProtocolConfigurationOptions)]

def modifyEpsBearerContextRequest : NasMessageType where
  mandatory := []
  optional := [
    (0x5b, .epsQualityOfService), -- new_eps_qos
    (0x36, .trafficFlowTemplate), -- tft
    (0x30, .qualityOfService), -- new_qos
    (0x32, .llcServiceAccessPointIdentifier), -- negotiated_llc_sapi
    (0x80, .radioPriority),
    (0x34, .packetFlowIdentifier),
    (0x5e, .apnAggregateMaximumBitRate), -- apn_ambr
    (0x27, .protocolConfigurationOptions),
    (0xc0, .wlanOffloadAcceptability), -- wlan_offload_indication
    (0x33, .nbifomContainer),
    (0x66, .headerCompressionConfiguration),
    (0x7b, .extendedProtocolConfigurationOptions)]

def modifyEpsBearerContextAccept : NasMessageType where
  mandatory := []
  optional := [
    (0x27, .protocolConfigurationOptions),
    (0x33, .nbifomContainer),
    (0x7b, .extendedProtocolConfigurationOptions)]

def modifyEpsBearerContextReject : NasMessageType where
  mandatory := [.esmCause]
  optional := [
    (0x27, .protocolConfigurationOptions),
    (0x33, .nbifomContainer),
    (0x7b, .extendedProtocolConfigurationOptions)]

def deactivateEpsBearerContextRequest : NasMessageType where
  mandatory := [.esmCause]
  optional := [
    (0x27, .protocolConfigurationOptions),
    (0x37, .gprsTimer3), -- t3396_value
    (0xc0, .wlanOffloadAcceptability), -- wlan_offload_indication
    (0x33, .nbifomContainer),
    (0x7b, .extendedProtocolConfigurationOptions)]

def deactivateEpsBearerContextAccept : NasMessageType where
  mandatory := []
  optional := [
    (0x27, .protocolConfigurationOptions),
    (0x7b, .extendedProtocolConfigurationOptions)]

def pdnConnectivityRequest : NasMessageType where
  mandatory := [.requestType]
  optional := [
    (0xd0, .esmInformationTransferFlag),
    (0x28, .accessPointName),
    (0x27, .protocolConfigurationOptions),
    (0xc0, .deviceProperties),
    (0x33, .nbifomContainer),
    (0x66, .headerCompressionConfiguration),
    (0x7b, .extendedProtocolConfigurationOptions)]

def pdnConnectivityReject : NasMessageType where
  mandatory := [.esmCause]
  optional := [
    (0x27, .protocolConfigurationOptions),
    (0x37, .gprsTimer3), -- back_off_timer_value
    (0x6b, .reAttemptIndicator),
    (0x33, .nbifomContainer),
    (0x7b, .extendedProtocolConfigurationOptions)]

def pdnDisconnectRequest : NasMessageType where
  mandatory := [.linkedEpsBearerIdentity]
  optional := [
    (0x27, .protocolConfigurationOptions),
    (0x7b, .extendedProtocolConfigurationOptions)]

def pdnDisconnectReject : NasMessageType where
  mandatory := [.esmCause]
  optional := [
    (0x27, .protocolConfigurationOptions),
    (0x7b, .extendedProtocolConfigurationOptions)]

def bearerResourceAllocationRequest : NasMessageType where
  mandatory := [.linkedEpsBearerIdentity, .trafficFlowAggregateDescription, .epsQualityOfService]
  optional := [
    (0x27, .protocolConfigurationOptions),
    (0xc0, .deviceProperties),
    (0x33, .nbifomContainer),
    (0x7b, .extendedProtocolConfigurationOptions)]

def bearerResourceAllocationReject : NasMessageType where
  mandatory := [.esmCause]
  optional := [
    (0x27, .protocolConfigurationOptions),
    (0x37, .gprsTimer3), -- back_off_timer_value
    (0x6b, .reAttemptIndicator),
    (0x33, .nbifomContainer),
    (0x7b, .extendedProtocolConfigurationOptions)]

def bearerResourceModificationRequest : NasMessageType where
  mandatory := [.linkedEpsBearerIdentity, .trafficFlowAggregateDescription]
  optional := [
    (0x5b, .epsQualityOfService), -- required_traffic_flow_qos
    (0x58, .esmCause),
    (0x27, .protocolConfigurationOptions),
    (0xc0, .deviceProperties),
    (0x33, .nbifomContainer),
    (0x66, .headerCompressionConfiguration),
    (0x7b, .extendedProtocolConfigurationOptions)]

def bearerResourceModificationReject : NasMessageType where
  mandatory := [.esmCause]
  optional := [
    (0x27, .protocolConfigurationOptions),
    (0x37, .gprsTimer3), -- back_off_timer_value
    (0x6b, .reAttemptIndicator),
    (0x33, .nbifomContainer),
    (0x7b, .extendedProtocolConfigurationOptions)]

def esmInformationResponse : NasMessageType where
  mandatory := []
  optional := [
    (0x28, .accessPointName),
    (0x27, .protocolConfigurationOptions),
    (0x7b, .extendedProtocolConfigurationOptions)]

def esmStatus : NasMessageType where
  mandatory := [.esmCause]
  optional := []

end NasMessageType

/-- The `switch` of `ogs_nas_emm_decode` -/
def emmReceived : UInt8 → Option NasMessageType
  | 0x41 => some .attachRequest
  | 0x42 => some .attachAccept
  | 0x43 => some .attachComplete
  | 0x44 => some .attachReject
  | 0x45 => some .detachRequestFromUe
  | 0x46 => some .empty
  | 0x48 => some .trackingAreaUpdateRequest
  | 0x49 => some .trackingAreaUpdateAccept
  | 0x4a => some .empty
  | 0x4b => some .trackingAreaUpdateReject
  | 0x4c => some .extendedServiceRequest
  | 0x4e => some .serviceReject
  | 0x50 => some .gutiReallocationCommand
  | 0x51 => some .empty
  | 0x52 => some .authenticationRequest
  | 0x53 => some .authenticationResponse
  | 0x54 => some .empty
  | 0x55 => some .identityRequest
  | 0x56 => some .identityResponse
  | 0x5c => some .authenticationFailure
  | 0x5d => some .securityModeCommand
  | 0x5e => some .securityModeComplete
  | 0x5f => some .securityModeReject
  | 0x60 => some .emmStatus
  | 0x61 => some .emmInformation
  | 0x62 => some .downlinkNasTransport
  | 0x63 => some .uplinkNasTransport
  | 0x64 => some .csServiceNotification
  | 0x65 => some .uplinkGenericNasTransport
  | 0x68 => some .downlinkGenericNasTransport
  | _ => none

/-- The `switch` of `ogs_nas_emm_encode` -/
def emmSent : UInt8 → Option NasMessageType
  | 0x41 => some .attachRequest
  | 0x42 => some .attachAccept
  | 0x43 => some .attachComplete
  | 0x44 => some .attachReject
  | 0x45 => some .detachRequestToUe
  | 0x46 => some .empty
  | 0x48 => some .trackingAreaUpdateRequest
  | 0x49 => some .trackingAreaUpdateAccept
  | 0x4a => some .empty
  | 0x4b => some .trackingAreaUpdateReject
  | 0x4c => some .extendedServiceRequest
  | 0x4e => some .serviceReject
  | 0x50 => some .gutiReallocationCommand
  | 0x51 => some .empty
  | 0x52 => some .authenticationRequest
  | 0x53 => some .authenticationResponse
  | 0x54 => some .empty
  | 0x55 => some .identityRequest
  | 0x56 => some .identityResponse
  | 0x5c => some .authenticationFailure
  | 0x5d => some .securityModeCommand
  | 0x5e => some .securityModeComplete
  | 0x5f => some .securityModeReject
  | 0x60 => some .emmStatus
  | 0x61 => some .emmInformation
  | 0x62 => some .downlinkNasTransport
  | 0x63 => some .uplinkNasTransport
  | 0x64 => some .csServiceNotification
  | 0x65 => some .uplinkGenericNasTransport
  | 0x68 => some .downlinkGenericNasTransport
  | _ => none

/-- The `switch` of `ogs_nas_esm_decode` and of `ogs_nas_esm_encode` -/
def esmType : UInt8 → Option NasMessageType
  | 0xc1 => some .activateDefaultEpsBearerContextRequest
  | 0xc2 => some .activateDefaultEpsBearerContextAccept
  | 0xc3 => some .activateDefaultEpsBearerContextReject
  | 0xc5 => some .activateDedicatedEpsBearerContextRequest
  | 0xc6 => some .activateDedicatedEpsBearerContextAccept
  | 0xc7 => some .activateDedicatedEpsBearerContextReject
  | 0xc9 => some .modifyEpsBearerContextRequest
  | 0xca => some .modifyEpsBearerContextAccept
  | 0xcb => some .modifyEpsBearerContextReject
  | 0xcd => some .deactivateEpsBearerContextRequest
  | 0xce => some .deactivateEpsBearerContextAccept
  | 0xd0 => some .pdnConnectivityRequest
  | 0xd1 => some .pdnConnectivityReject
  | 0xd2 => some .pdnDisconnectRequest
  | 0xd3 => some .pdnDisconnectReject
  | 0xd4 => some .bearerResourceAllocationRequest
  | 0xd5 => some .bearerResourceAllocationReject
  | 0xd6 => some .bearerResourceModificationRequest
  | 0xd7 => some .bearerResourceModificationReject
  | 0xd9 => some .empty
  | 0xda => some .esmInformationResponse
  | 0xe8 => some .esmStatus
  | _ => none

end NextEpc

import NextEpc.Mme.S1apHandler

/-!
# Modify Bearer Responses

What `mme_s11_handle_modify_bearer_response` does to the state of S1AP handlers: the responses are
counted, and the last one completes a Path Switch Request or a Handover Notify.
-/

namespace NextEpc

/-- `S1AP_CauseRadioNetwork_successful_handover` -/
def successfulHandover : S1apCause := ⟨.radioNetwork, 2⟩

/-- A Path Switch Acknowledge -/
def S1Sent.isPathSwitchAck : S1Sent → Bool
  | .toEnbUe _ .pathSwitchRequestAcknowledge => true
  | _ => false

/-- The release of the source of a handover that succeeded -/
def S1Sent.isHandoverRelease : S1Sent → Bool
  | .delayed _ (.ueContextReleaseCommand cause) => cause = successfulHandover
  | _ => false

namespace S1Mme
variable (s : S1Mme)

/-- `s1ap_send_path_switch_ack` -/
def s1apSendPathSwitchAck (mmeUe : MmeUeId) : MmeM S1Mme := do
  let enbUe ← Fallible.assertSome .s11Handler (s.mmeUes.mem mmeUe).enbUe
  .ok (s.send (.toEnbUe enbUe .pathSwitchRequestAcknowledge))

/-- The source of a handover that succeeded is released, after some time. -/
def releaseSource (mmeUe : MmeUeId) : MmeM S1Mme := do
  let targetUe ← Fallible.assertSome .s11Handler (s.mmeUes.mem mmeUe).enbUe
  let sourceUe ← Fallible.assertSome .s11Handler (s.enbUes.mem targetUe).sourceUe
  (s.clearEnbUeTimer sourceUe).s1apSendUeContextReleaseCommand sourceUe successfulHandover
    .deleteIndirectTunnel true

/-- `GTP_COUNTER_CHECK(mme_ue, GTP_COUNTER_MODIFY_BEARER_BY_PATH_SWITCH, ...)` -/
def checkPathSwitch (mmeUe : MmeUeId) : MmeM S1Mme :=
  let (counter, last) := (s.mmeUes.mem mmeUe).pathSwitchCounter.check
  let s := s.modifyMmeUe mmeUe fun ue => { ue with pathSwitchCounter := counter }
  if last then s.s1apSendPathSwitchAck mmeUe else .ok s

/-- `GTP_COUNTER_CHECK(mme_ue, GTP_COUNTER_MODIFY_BEARER_BY_HANDOVER_NOTIFY, ...)` -/
def checkHandoverNotify (mmeUe : MmeUeId) : MmeM S1Mme :=
  let (counter, last) := (s.mmeUes.mem mmeUe).handoverNotifyCounter.check
  let s := s.modifyMmeUe mmeUe fun ue => { ue with handoverNotifyCounter := counter }
  if last then s.releaseSource mmeUe else .ok s

/-- `mme_s11_handle_modify_bearer_response`, with a transaction that is there to be committed -/
def mmeS11HandleModifyBearerResponse (mmeUe : MmeUeId) : MmeM S1Mme := do
  let s ← s.checkPathSwitch mmeUe
  s.checkHandoverNotify mmeUe

end S1Mme

end NextEpc

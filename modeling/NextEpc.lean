import NextEpc.Lib.Trace
import NextEpc.Lib.Matching
import NextEpc.Gtp.Xact
import NextEpc.Gtp.XactSystem
import NextEpc.Gtp.XactInvariant
import NextEpc.Gtp.XactAssoc
import NextEpc.Gtp.XactTable
import NextEpc.Gtp.XactReceive
import NextEpc.Gtp.XactOnce
import NextEpc.Gtp.XactId
import NextEpc.Sgw.Bearer
import NextEpc.Gtp.Tlv
import NextEpc.Gtp.TlvBuild
import NextEpc.Gtp.TlvRoundtrip
import NextEpc.Sgw.BearerCalls
import NextEpc.Sgw.Leak
import NextEpc.Lib.Ownership
import NextEpc.Lib.Pkbuf
import NextEpc.Lib.Pool
import NextEpc.Lib.SeqNum
import NextEpc.Mme.Context
import NextEpc.Mme.EcmAssoc
import NextEpc.Mme.EcmRun
import NextEpc.Mme.NasCount
import NextEpc.Mme.NasDownlink
import NextEpc.Mme.NasReplay
import NextEpc.Pgw.UeIp
import NextEpc.Pgw.UeIpRun
import NextEpc.Lib.History
import NextEpc.Mme.Authentication
import NextEpc.Mme.Gate
import NextEpc.Lib.Family
import NextEpc.Lib.KeyTable
import NextEpc.Mme.BearerId
import NextEpc.Mme.FreshRecord
import NextEpc.Mme.Lookup
import NextEpc.Hss.Air
import NextEpc.Hss.Resync
import NextEpc.Lib.Loop
import NextEpc.Sgw.Context
import NextEpc.Sgw.Downlink
import NextEpc.Sgw.EndMarker
import NextEpc.Sgw.FreshSlot
import NextEpc.Gx.ChargingRule
import NextEpc.Pgw.BearerRun
import NextEpc.Pgw.Classify
import NextEpc.Pgw.FilterOrder
import NextEpc.Gateway.BearerResponse
import NextEpc.Gateway.DuplicateRequest
import NextEpc.Lib.Custody
import NextEpc.Lib.Footprint
import NextEpc.Lib.Incarnation
import NextEpc.Mme.ContextRelease
import NextEpc.Mme.EventQueue
import NextEpc.Mme.S1apContext
import NextEpc.Mme.S1apHandler
import NextEpc.Mme.S1apIsolation
import NextEpc.Pcrf.AarAccepted
import NextEpc.Pcrf.AarFailure
import NextEpc.Pcrf.AddressMap
import NextEpc.Pcrf.AddressRun
import NextEpc.Pcrf.Bookkeeping
import NextEpc.Pcrf.SessionsInv
import NextEpc.Pcrf.SessionsRun
import NextEpc.Pgw.CreditControl
import NextEpc.Lib.Returning
import NextEpc.Mme.S11Context
import NextEpc.Mme.S11Handler
import NextEpc.Gtp.Types
import NextEpc.Gtp.TlvFrame
import NextEpc.Gtp.XactAct
import NextEpc.Gtp.XactLife
import NextEpc.Mme.ModifyBearer
import NextEpc.Mme.ModifyBearerRun
import NextEpc.Mme.S1apLocation
import NextEpc.Gtp.Node
import NextEpc.Lib.Codec
import NextEpc.Lib.OnesComplement
import NextEpc.Lib.Subnet
import NextEpc.Lib.Words
import NextEpc.Pgw.ExtensionWalk
import NextEpc.Pgw.FlowDescription
import NextEpc.Pgw.GtpPath
import NextEpc.Pgw.Pco
import NextEpc.Pgw.TftBuild
import NextEpc.Pgw.TftRun
import NextEpc.Pgw.UePool
import NextEpc.Pgw.Binding
import NextEpc.Pgw.BindingRun
import NextEpc.Sgw.DlNotification
import NextEpc.S1ap.Conv
import NextEpc.Nas.BitRate
import NextEpc.Lib.Tbcd
import NextEpc.Nas.Imsi
import NextEpc.Nas.TaiList
import NextEpc.Mme.ServedTai
import NextEpc.Mme.S1Setup
import NextEpc.Mme.ContextSetup
import NextEpc.Mme.S11Returns
import NextEpc.Mme.S11Frame
import NextEpc.Mme.AttachAccept
import NextEpc.Mme.S11Handled
import NextEpc.Pcrf.Termination
import NextEpc.Lib.Tagged
import NextEpc.Nas.Ie
import NextEpc.Nas.IeWire
import NextEpc.Nas.Ies
import NextEpc.Nas.MessageType
import NextEpc.Nas.Message
import NextEpc.Nas.Decode
import NextEpc.Nas.RoundTrip
import NextEpc.Nas.Normal
import NextEpc.Nas.MessageRoundTrip
import NextEpc.Nas.Acceptance
import NextEpc.Mme.EmmBuild
import NextEpc.Mme.EsmBuild
import NextEpc.S6a.Message
import NextEpc.S6a.UpdateLocation
import NextEpc.S6a.Authentication
import NextEpc.Lib.Retransmission
import NextEpc.Mme.EsmSm
import NextEpc.Mme.EsmRequests
import NextEpc.Mme.EsmSilent
import NextEpc.Mme.EsmLife
import NextEpc.Mme.PdnSelection
import NextEpc.Mme.EsmStale

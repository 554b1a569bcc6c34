import WispersConnect.AnchoredHistory
import WispersConnect.VerifierAnchor
import WispersConnect.PanicFreedom
import WispersConnect.ActivationSteps
import WispersConnect.Runs
import WispersConnect.EndorserRuns
import WispersConnect.KeyHistories
import WispersConnect.PairingSecrets
import WispersConnect.PairingAgreement
import WispersConnect.CodeLifetimes
import WispersConnect.PeerEncoding
import WispersConnect.SignatureRoles
import WispersConnect.PeerConnections
import WispersConnect.SessionKeys
import WispersConnect.DeviceRuns
import WispersConnect.RestartAgreement
import WispersConnect.CacheRaces
import WispersConnect.GroupInvitations
import WispersConnect.ConnectionSteps
import WispersConnect.DriverExit
import WispersConnect.ConnectionDrop
import WispersConnect.PollWakeups
import WispersConnect.StreamCommands
import WispersConnect.CommandFraming
import WispersConnect.DestinationAgreement
import WispersConnect.Utf8Text
import WispersConnect.ProxyRequests
import WispersConnect.HttpFraming
import WispersConnect.SaveCrashes
import WispersConnect.StoreAgreement
import WispersConnect.DatagramDelivery
import WispersConnect.ConnectionPool
import WispersConnect.NodeStores
import WispersConnect.DatagramCipher
import WispersConnect.LogoutRetries
import WispersConnect.RegistrationRuns
import WispersConnect.ReadyFlush
import WispersConnect.StreamBooks
import WispersConnect.StreamHandles
import WispersConnect.StreamDrains
import WispersConnect.PoolConnects
import WispersConnect.HttpResponses
import WispersConnect.HttpHeads
import WispersConnect.HeaderForwarding
import WispersConnect.SocksHandshake
import WispersConnect.AbandonedPairings
import WispersConnect.RadixChange
import WispersConnect.SlidingWindows
import WispersConnect.Base36Secrets
import WispersConnect.PairingCodeTexts
import WispersConnect.SecretDecoding
import WispersConnect.PortForwarding
import WispersConnect.RttEstimates
import WispersConnect.ServingLoop
import WispersConnect.ServingRuns
import WispersConnect.ServingAnswers
import WispersConnect.ReconnectDelays
import WispersConnect.RelayChains
import WispersConnect.TunnelRelays
import WispersConnect.Mailboxes
import WispersConnect.MailboxRuns
import WispersConnect.ServingCalls
import WispersConnect.ForeignCalls
import WispersConnect.ForeignSlots
import WispersConnect.ForeignBoxes
import WispersConnect.ForeignMemory
import WispersConnect.DaemonRequests
import WispersConnect.DaemonLine
import WispersConnect.DaemonBetween
import WispersConnect.DaemonStart
import WispersConnect.DaemonAnswers
import WispersConnect.SocksConnections

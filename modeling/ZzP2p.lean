import ZzP2p.Db.AllocationTamper
import ZzP2p.Db.BalanceReads
import ZzP2p.Db.BalanceTransfer
import ZzP2p.Db.ChatMessage
import ZzP2p.Db.EncryptedMessage
import ZzP2p.Db.EpochSettled
import ZzP2p.Db.GenesisOnce
import ZzP2p.Db.TransactionHash
import ZzP2p.Db.WitnessTickRecord
import ZzP2p.Lifecycle
import ZzP2p.Messaging.AckFilter
import ZzP2p.Messaging.AckFlood
import ZzP2p.Messaging.AllOrNothing
import ZzP2p.Messaging.ChatHistory
import ZzP2p.Messaging.ChatRequest
import ZzP2p.Messaging.DedupKey
import ZzP2p.Messaging.DeliveredStatus
import ZzP2p.Messaging.Delivery
import ZzP2p.Messaging.Duplicates
import ZzP2p.Protocols.ConnectToken
import ZzP2p.Protocols.ConnectedFlag
import ZzP2p.Protocols.FrameIdentity
import ZzP2p.Protocols.GossipFlood
import ZzP2p.Protocols.KeyAgreement
import ZzP2p.Protocols.NoSelfDial
import ZzP2p.Protocols.NodeSync
import ZzP2p.Protocols.OneOwner
import ZzP2p.Protocols.SeedDialability
import ZzP2p.Protocols.SeedIntegrity
import ZzP2p.Protocols.SeedRoundTrip
import ZzP2p.Protocols.SeedSetMerge
import ZzP2p.Protocols.SeedSpread
import ZzP2p.Protocols.SyncAttempt
import ZzP2p.Protocols.SyncCycle
import ZzP2p.Protocols.Tiebreak
import ZzP2p.Web.ConnectionGroups
import ZzP2p.Web.ContactList
import ZzP2p.Web.SeedTable
import ZzP2p.Web.TransactionPages
import ZzP2p.Witness.DigestOrder
import ZzP2p.Witness.RewardShares
import ZzP2p.Witness.Stability
import ZzP2p.Witness.TableRuns
import ZzP2p.Witness.TickReply
import ZzP2p.Witness.Validation

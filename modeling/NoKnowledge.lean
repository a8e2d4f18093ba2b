import NoKnowledge.Foundation.Bytes
import NoKnowledge.Foundation.Dict
import NoKnowledge.Foundation.Json
import NoKnowledge.Foundation.JsonCodec
import NoKnowledge.Foundation.JsonRoundTrip
import NoKnowledge.Foundation.Base64
import NoKnowledge.Foundation.Effect
import NoKnowledge.Foundation.Thread
import NoKnowledge.Foundation.Indistinguishable
import NoKnowledge.Foundation.Dynamic
import NoKnowledge.Crypto.Suite
import NoKnowledge.Crypto.Ratchet
import NoKnowledge.Foundation.KeyChain
import NoKnowledge.Foundation.HashChain
import NoKnowledge.Foundation.NumberedLog
import NoKnowledge.Foundation.Transitions
import NoKnowledge.Crypto.RatchetSpec
import NoKnowledge.Crypto.SymbolicSuite
import NoKnowledge.Crypto.RatchetKeys
import NoKnowledge.Crypto.RatchetLadder
import NoKnowledge.Crypto.RatchetSingleUse
import NoKnowledge.Crypto.RatchetLate
import NoKnowledge.Crypto.RatchetBound
import NoKnowledge.Crypto.RatchetAgreement
import NoKnowledge.Errors
import NoKnowledge.Foundation.Sql
import NoKnowledge.Foundation.Table
import NoKnowledge.Crypto.Identity
import NoKnowledge.Crypto.Prekeys
import NoKnowledge.Crypto.X3dh
import NoKnowledge.Crypto.Padding
import NoKnowledge.Wire.Protocol
import NoKnowledge.Core.Card
import NoKnowledge.Core.Devices
import NoKnowledge.Core.SignedRecords
import NoKnowledge.Core.DeviceChannel
import NoKnowledge.Server.Database
import NoKnowledge.Server.Requests
import NoKnowledge.Server.Outcomes
import NoKnowledge.Server.StoreInvariant
import NoKnowledge.Server.OneTimePrekeys
import NoKnowledge.Server.Routes
import NoKnowledge.Foundation.SlidingWindow
import NoKnowledge.Server.RateLimit
import NoKnowledge.Server.Alike
import NoKnowledge.Server.Confidentiality
import NoKnowledge.Server.Noticeboard
import NoKnowledge.Server.Shelf
import NoKnowledge.Server.MailboxLog
import NoKnowledge.Wire.MultiRelay
import NoKnowledge.Core.Acknowledgement
import NoKnowledge.Core.Session
import NoKnowledge.Core.Store
import NoKnowledge.Core.StoreKey
import NoKnowledge.Core.DiscoveryResult
import NoKnowledge.Core.World
import NoKnowledge.Core.History
import NoKnowledge.Core.Sync
import NoKnowledge.Core.Client
import NoKnowledge.Foundation.Summary
import NoKnowledge.Core.Footprint
import NoKnowledge.Core.Reception
import NoKnowledge.Core.Threads
import NoKnowledge.Core.MessageMerge
import NoKnowledge.Core.HistoryConvergence
import NoKnowledge.Core.ContactBinding
import NoKnowledge.Core.Collection
import NoKnowledge.Core.FailedApprovals
import NoKnowledge.Core.HostileBodies
import NoKnowledge.Core.Ingestion
import NoKnowledge.Core.MergeFrame
import NoKnowledge.Core.MergeRepeat
import NoKnowledge.Core.MessageProgress
import NoKnowledge.Core.MessageUniqueness
import NoKnowledge.Core.ContactSeparation
import NoKnowledge.Core.RecordDelivery
import NoKnowledge.Core.ApprovalGate
import NoKnowledge.Core.HistoryGate
import NoKnowledge.Core.DeviceSteps
import NoKnowledge.Core.RecordIntegrity
import NoKnowledge.Core.RecordSize
import NoKnowledge.Core.FailedRecords
import NoKnowledge.Core.PrekeyUse
import NoKnowledge.Core.SessionRace
import NoKnowledge.Core.RejectedBlobs
import NoKnowledge.Core.TransferDigest
import NoKnowledge.Core.TransferStream
import NoKnowledge.Core.TransferProgress
import NoKnowledge.Core.TransferCompletion
import NoKnowledge.Core.TransferSize
import NoKnowledge.Core.ExportFile
import NoKnowledge.Core.FailedImports
import NoKnowledge.Core.ExportRoundTrip
import NoKnowledge.Core.RequestRace
import NoKnowledge.Core.SessionCodec
import NoKnowledge.Core.RecordCodec
import NoKnowledge.Core.PrekeySubstitution
import NoKnowledge.Server.Idleness
import NoKnowledge.Server.Hashcash
import NoKnowledge.Crypto.PaddingSize
import NoKnowledge.Core.RecordForms
import NoKnowledge.Core.RelayUrls
import NoKnowledge.Core.Attachments
import NoKnowledge.Core.BlobCache
import NoKnowledge.Crypto.Base32
import NoKnowledge.Core.DiscoverySafety
import NoKnowledge.Core.HostileInput
import NoKnowledge.Gui.Worker
import NoKnowledge.Core.Handshake
import NoKnowledge.Crypto.OneChain
import NoKnowledge.Wire.Opening
import NoKnowledge.Core.Answering
import NoKnowledge.Core.FirstSession
import NoKnowledge.Core.Hearing
import NoKnowledge.Core.PublishedPrekeys
import NoKnowledge.Core.FirstContact
import NoKnowledge.Core.Correspondents
import NoKnowledge.Core.PrekeyPublication

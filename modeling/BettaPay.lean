import BettaPay.Host.Transaction
import BettaPay.Host.Run
import BettaPay.Host.Word
import BettaPay.Host.Support
import BettaPay.Host.Value
import BettaPay.Host.Blind
import BettaPay.Host.Dict
import BettaPay.Host.Shares
import BettaPay.Host.Checks
import BettaPay.Host.Clock
import BettaPay.Host.Xdr
import BettaPay.Host.ScVal
import BettaPay.Host.Base64
import BettaPay.Host.Loops
import BettaPay.Common.Types
import BettaPay.Common.Multisig
import BettaPay.Common.SignerLoop
import BettaPay.Common.Authority
import BettaPay.Common.Recovery
import BettaPay.Common.Control
import BettaPay.Common.Audit
import BettaPay.Common.Timelock
import BettaPay.Common.Migration
import BettaPay.Common.ErrorCodes
import BettaPay.Settlement.Types
import BettaPay.Settlement.Xdr
import BettaPay.Settlement.Storage
import BettaPay.Settlement.Payments
import BettaPay.Settlement.Merchant
import BettaPay.Settlement.Rules
import BettaPay.Settlement.Admin
import BettaPay.Settlement.Contract
import BettaPay.Settlement.StorageSpec
import BettaPay.Settlement.Applied
import BettaPay.Settlement.Batch
import BettaPay.Settlement.Effect
import BettaPay.Settlement.Inversion
import BettaPay.Governance.Contract
import BettaPay.Settlement.Control
import BettaPay.Governance.Effect
import BettaPay.Settlement.Unwrap
import BettaPay.Governance.Unwrap
import BettaPay.Governance.Parameters
import BettaPay.Protocol.Multisig
import BettaPay.Protocol.AdminAuth
import BettaPay.Protocol.Recovery
import BettaPay.Settlement.Split
import BettaPay.Settlement.Pricing
import BettaPay.Settlement.Rounding
import BettaPay.Protocol.Conservation
import BettaPay.Settlement.PaymentLog
import BettaPay.Settlement.PaymentStore
import BettaPay.Settlement.PaymentCount
import BettaPay.Settlement.Queue
import BettaPay.Settlement.Timelock
import BettaPay.Settlement.Veto
import BettaPay.Settlement.Roles
import BettaPay.Settlement.Authorization
import BettaPay.Settlement.Pause
import BettaPay.Settlement.Registry
import BettaPay.Settlement.Resolution
import BettaPay.Settlement.Ceiling
import BettaPay.Settlement.Cache
import BettaPay.Settlement.Slots
import BettaPay.Settlement.Lifetimes
import BettaPay.Settlement.SlotLifetime
import BettaPay.Settlement.Queries
import BettaPay.Settlement.Precedence
import BettaPay.Settlement.Parity
import BettaPay.Settlement.Bootstrap
import BettaPay.Settlement.Preview
import BettaPay.Settlement.PruneBatch
import BettaPay.Settlement.CancelBatch
import BettaPay.Settlement.Pages
import BettaPay.Settlement.Cleared
import BettaPay.Settlement.Degradation
import BettaPay.Protocol.FeeConfig
import BettaPay.Protocol.Bounds
import BettaPay.Protocol.Ceiling
import BettaPay.Protocol.Lockstep
import BettaPay.Protocol.Reconstruction
import BettaPay.Protocol.Threshold
import BettaPay.Protocol.Migration
import BettaPay.Scripts.SorobanEvents
import BettaPay.Scripts.Reader
import BettaPay.Scripts.Topics
import BettaPay.Scripts.PendingQueue
import BettaPay.Scripts.FetchEvents
import BettaPay.Scripts.PendingWindow
import BettaPay.Host.Consumption
import BettaPay.Host.Ensures
import BettaPay.Host.Base32
import BettaPay.Scripts.StrKey
import BettaPay.Scripts.Decoder
import BettaPay.Scripts.ScValue
import BettaPay.Scripts.RoundTrip
import BettaPay.Scripts.Misreading
import BettaPay.Scripts.ScheduledPayload
import BettaPay.Host.Extends
import BettaPay.Scripts.Termination
import BettaPay.Common.Book
import BettaPay.Common.Takeover
import BettaPay.Governance.Journal
import BettaPay.Host.Csv
import BettaPay.Host.Founding
import BettaPay.Protocol.Founding
import BettaPay.Protocol.LogDecides
import BettaPay.Protocol.Takeover
import BettaPay.Scripts.Export
import BettaPay.Settlement.Block
import BettaPay.Settlement.Updated
import BettaPay.Common.Coalition
import BettaPay.Protocol.Coalition
import BettaPay.Protocol.EventWire
import BettaPay.Scripts.Listing
import BettaPay.Governance.Named
import BettaPay.Host.Alike
import BettaPay.Protocol.Authors
import BettaPay.Settlement.Renewal
import BettaPay.Settlement.Upkeep
import BettaPay.Protocol.Steering
import BettaPay.Settlement.Feasible

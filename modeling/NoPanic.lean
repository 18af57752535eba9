import NoPanic.Math.TransitionSystem
import NoPanic.Math.Pipeline
import NoPanic.Math.HashMap
import NoPanic.Math.Exclusion
import NoPanic.Math.Delivery
import NoPanic.Common.Codec
import NoPanic.Common.Ntor
import NoPanic.Common.PublicKeyHex
import NoPanic.Common.Tls
import NoPanic.Common.DigestEncoding
import NoPanic.Relay.Middle
import NoPanic.Relay.PolicyEnforcement
import NoPanic.Relay.Isolation
import NoPanic.Relay.Accounting
import NoPanic.Relay.DigestMismatch
import NoPanic.Relay.ExtendFormat
import NoPanic.Relay.HandlerRuns
import NoPanic.Relay.BytesForwarded
import NoPanic.Relay.Wizard
import NoPanic.Relay.Metrics
import NoPanic.Proto.Conversions
import NoPanic.Circuit.Teardown
import NoPanic.Discovery.History
import NoPanic.Discovery.Readiness
import NoPanic.Discovery.WeightedDraw
import NoPanic.Discovery.BandwidthSums
import NoPanic.Client.Reader
import NoPanic.Client.SendFailure
import NoPanic.Client.PoolStreams
import NoPanic.Client.PoolExpiry
import NoPanic.Client.HandleStream
import NoPanic.Client.RebuildStreaks
import NoPanic.Client.ExpireAged
import NoPanic.Circuit.EndToEnd
import NoPanic.Circuit.Observation
import NoPanic.Circuit.WireOrder
import NoPanic.Circuit.StreamData
import NoPanic.Circuit.Upload
import NoPanic.Circuit.Forgery
import NoPanic.Circuit.Establishment
import NoPanic.WebUi.ActivityLog
import NoPanic.Discovery.Population
import NoPanic.Client.Directory
import NoPanic.Relay.Listing
import NoPanic.Client.PoolProgress
import NoPanic.Relay.Locks
import NoPanic.Client.Locks
import NoPanic.Client.PoolRounds
import NoPanic.Relay.AcceptLoop
import NoPanic.Circuit.DownloadDelivery
import NoPanic.Circuit.Connection
import NoPanic.Client.PoolSelection
import NoPanic.Client.NodeCache
import NoPanic.Client.Setup

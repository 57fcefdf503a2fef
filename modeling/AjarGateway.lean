import AjarGateway.Calendar.Gregorian
import AjarGateway.Calendar.Civil
import AjarGateway.Interleaving.Program
import AjarGateway.Interleaving.Trace
import AjarGateway.Interleaving.Pool
import AjarGateway.Interleaving.Erasure
import AjarGateway.Interleaving.Isolation
import AjarGateway.Interleaving.Counting
import AjarGateway.Interleaving.Linearization
import AjarGateway.Interleaving.Register
import AjarGateway.Interleaving.Division
import AjarGateway.Interleaving.Progress
import AjarGateway.Paths.Lexical
import AjarGateway.Text.Exposition
import AjarGateway.Rust.Std
import AjarGateway.Hashing.Chain
import AjarGateway.Http.Message
import AjarGateway.Http.Reference
import AjarGateway.Http.FieldValue
import AjarGateway.Http.AcceptField
import AjarGateway.Http.Url
import AjarGateway.Http.EntityTag
import AjarGateway.Http.Length
import AjarGateway.Store.Backend
import AjarGateway.Store.Timestamp
import AjarGateway.Store.CivilDays
import AjarGateway.Store.Prepared
import AjarGateway.Store.Load
import AjarGateway.Store.Reference
import AjarGateway.Store.Complete
import AjarGateway.Store.Snapshot
import AjarGateway.Store.ListingOrder
import AjarGateway.Store.Interrupted
import AjarGateway.Store.StrongEtag
import AjarGateway.Store.Paths
import AjarGateway.Store.KeyPaths
import AjarGateway.Store.Sessions
import AjarGateway.Serving.Negotiate
import AjarGateway.Serving.Preference
import AjarGateway.Serving.AcceptReading
import AjarGateway.Serving.Upstream
import AjarGateway.Serving.Handlers
import AjarGateway.Serving.Respond
import AjarGateway.Serving.Reloads
import AjarGateway.Serving.Content
import AjarGateway.Serving.Reference
import AjarGateway.Serving.ArtifactTags
import AjarGateway.Serving.EntityTags
import AjarGateway.Serving.SignedViews
import AjarGateway.Serving.Conditional
import AjarGateway.Serving.Confinement
import AjarGateway.Serving.ManifestCache
import AjarGateway.Serving.Transparency
import AjarGateway.Serving.Vary
import AjarGateway.Serving.Reachability
import AjarGateway.Serving.ViewUrl
import AjarGateway.Serving.IndexReachability
import AjarGateway.Serving.HopByHop
import AjarGateway.Serving.Calls
import AjarGateway.Serving.BodyLimits
import AjarGateway.Serving.Counts
import AjarGateway.Serving.Metrics
import AjarGateway.Serving.ExpiryLog
import AjarGateway.System.Gateway
import AjarGateway.System.Invariants
import AjarGateway.System.Solo
import AjarGateway.System.Reload
import AjarGateway.System.Publish
import AjarGateway.System.Expiry
import AjarGateway.System.Poisoning
import AjarGateway.System.FailedReload
import AjarGateway.System.Isolation
import AjarGateway.System.Accounting
import AjarGateway.System.Scrape
import AjarGateway.System.ExpiryLog
import AjarGateway.System.ExpiryOrder
import AjarGateway.System.Linearizability
import AjarGateway.System.FileReads
import AjarGateway.System.Provenance
import AjarGateway.System.Caching
import AjarGateway.System.Progress
import AjarGateway.System.Convergence
import AjarGateway.System.Scraping
import AjarGateway.Process.Arguments
import AjarGateway.Process.Launch
import AjarGateway.Process.Servers
import AjarGateway.Process.Shutdown
import AjarGateway.Process.Life

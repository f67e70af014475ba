import AwareKV.Lib.Machine
import AwareKV.Lib.Outbox
import AwareKV.Lib.Dict
import AwareKV.Lib.Py
import AwareKV.Lib.Effect
import AwareKV.Lib.Loop
import AwareKV.Lib.Recency
import AwareKV.Lib.Lapse
import AwareKV.Lib.Register
import AwareKV.Lib.Rounding
import AwareKV.Lib.Smoothing
import AwareKV.Lib.Bytes
import AwareKV.Lib.Tensor
import AwareKV.Lib.Text
import AwareKV.Lib.Decimal
import AwareKV.Lib.Json
import AwareKV.Lib.CutJson
import AwareKV.Types
import AwareKV.Config
import AwareKV.ConfigLoading
import AwareKV.Codec
import AwareKV.Quantization
import AwareKV.Adapter
import AwareKV.Cleanup
import AwareKV.Hashing
import AwareKV.Planner
import AwareKV.State
import AwareKV.Metadata
import AwareKV.Scheduler
import AwareKV.Store
import AwareKV.SaveSession
import AwareKV.Worker
import AwareKV.Connector
import AwareKV.ObjectFormat
import AwareKV.HeaderWords
import AwareKV.Saver
import AwareKV.Serving
import AwareKV.Pending
import AwareKV.LoadGate
import AwareKV.StalePlans
import AwareKV.LoadFailure
import AwareKV.Isolation
import AwareKV.Requery
import AwareKV.CompletionFlags
import AwareKV.Finish
import AwareKV.StateRuns
import AwareKV.Lifecycle
import AwareKV.ValidMetadata
import AwareKV.RefinementSwitch
import AwareKV.TokenBound
import AwareKV.Deadline
import AwareKV.RoundTrip
import AwareKV.Protocol
import AwareKV.Lib.ByteStream
import AwareKV.Framing
import AwareKV.Truncation
import AwareKV.Lib.Posix
import AwareKV.DiskBackend
import AwareKV.DataService
import AwareKV.KeyValue
import AwareKV.ErrorReplies
import AwareKV.Confinement
import AwareKV.Transit
import AwareKV.ManifestIndex
import AwareKV.ManifestService
import AwareKV.PrefixReuse
import AwareKV.HostCache
import AwareKV.Lru
import AwareKV.Eviction
import AwareKV.LruPolicy
import AwareKV.Expiry
import AwareKV.Lib.Delimited
import AwareKV.Lib.ForEach
import AwareKV.Lib.Rows
import AwareKV.Estimator
import AwareKV.BetterNetwork
import AwareKV.KeyText
import AwareKV.GpuApply
import AwareKV.Loader
import AwareKV.RefinementApply
import AwareKV.RefineManager
import AwareKV.Throttling
import AwareKV.PagedKv
import AwareKV.SlotAccess
import AwareKV.PagedRoundTrip
import AwareKV.CriticalLoad
import AwareKV.SessionRuns
import AwareKV.LayerNames
import AwareKV.Chunks
import AwareKV.Deployment
import AwareKV.Provenance
import AwareKV.ServedLayers
import AwareKV.Delivery
import AwareKV.Connections
import AwareKV.FileRaces
import AwareKV.Accounting
import AwareKV.Sharing
import AwareKV.Statuses
import AwareKV.CacheMap
import AwareKV.Collecting
import AwareKV.RequestIsolation
import AwareKV.StoredKv

import AwareKV.Lib.Py

/-!
# AwareKV.Types — the records that the parts of the connector exchange

Translation of `common/types.py`.  The `Literal` string fields with a fixed set of values are
inductive types.  `RequestTransferState` also has the attributes that `StateManager` creates by
assignment without declaring them (`connector_metadata`, `critical_load_done`,
`refinement_load_done`); they are absent (`none`) until assigned.
-/

namespace AwareKV

/-- Request ids. -/
abbrev ReqId := String

/-- Bytes on the wire and on disk. -/
abbrev Bytes := List UInt8

/-- The plan modes (`PLAN_MODE_*`). -/
inductive PlanMode
  | fullFp16 | criticalInt8Only | criticalInt8ThenFp16 | recompute
  deriving DecidableEq, Repr

/-- The storage tiers a plan loads from. -/
inductive Tier
  | t1 | t2
  deriving DecidableEq, Repr

/-- The request statuses (`REQUEST_STATUS_*`). -/
inductive Status
  | init | miss | hitPlanned | criticalLoading | criticalReady | refining | done | failed | recompute
  deriving DecidableEq, Repr

/-- What the manifest service knows about a stored prefix. -/
structure PrefixManifest where
  prefixKey : String
  modelId : String
  tokenizerId : String
  kvLayoutVersion : String
  blockSize : ℤ
  cacheDtype : String
  matchedTokens : ℤ
  matchedBlocks : List ℤ
  numLayers : ℤ
  createdAtMs : ℤ
  lastAccessMs : ℤ
  ttlS : ℤ
  criticalCodec : String
  criticalNbytes : ℤ
  criticalObjectId : String
  refinementCodec : Option String := none
  refinementNbytes : Option ℤ := none
  refinementObjectId : Option String := none
  qualityMode : String := "fp16"
  checksum : String := ""
  objectFormatVersion : String := "v1"
  deriving DecidableEq, Repr

/-- A manifest up to the time of its last access, which every query moves. -/
def PrefixManifest.untouched (m : PrefixManifest) : PrefixManifest := { m with lastAccessMs := 0 }

/-- How a request's prefix is going to be transferred. -/
structure TransferPlan where
  planId : String
  matchedTokens : ℤ
  matchedBlocks : List ℤ
  mode : PlanMode
  criticalDeadlineMs : ℤ
  refineBudgetMs : ℤ
  loadFromTier : Tier
  allowRefineDrop : Bool
  reasonCode : String := ""
  estimatedCriticalBytes : ℤ := 0
  estimatedRefineBytes : ℤ := 0
  deriving DecidableEq, Repr

/-- What the scheduler side hands to the worker side for one request. -/
structure DeadlineConnectorMetadata where
  requestId : ReqId
  prefixKey : Option String := none
  planMode : PlanMode
  matchedTokens : ℤ := 0
  matchedBlocks : List ℤ := []
  numLayers : ℤ := 32
  criticalObjectId : String := ""
  criticalCodec : String := ""
  criticalNbytes : ℤ := 0
  refinementObjectId : Option String := none
  refinementCodec : Option String := none
  refinementNbytes : Option ℤ := none
  needRefinement : Bool := false
  loadDeadlineMs : ℤ := 0
  allocatedBlockIds : List ℤ := []
  loadFromTier : Tier := .t2
  deriving DecidableEq, Repr

/-- The scheduler side's record of one request. -/
structure RequestTransferState where
  requestId : ReqId
  prefixKey : Option String := none
  matchedTokens : ℤ := 0
  matchedBlocks : List ℤ := []
  plan : Option TransferPlan := none
  manifest : Option PrefixManifest := none
  status : Status := .init
  startTimeMs : ℤ := 0
  allocatedBlockIds : List ℤ := []
  criticalDone : Bool := false
  refinementDone : Bool := false
  requestFinished : Bool := false
  fallbackReason : Option String := none
  connectorMetadata : Option DeadlineConnectorMetadata := none
  criticalLoadDone : Option Bool := none
  refinementLoadDone : Option Bool := none
  deriving DecidableEq, Repr

/-- The worker's report about one load. -/
structure WorkerLoadResult where
  requestId : ReqId
  success : Bool
  loadedTokens : ℤ := 0
  loadedBlocks : ℤ := 0
  criticalLoadDone : Bool := false
  refinementLoadDone : Bool := false
  criticalBytes : ℤ := 0
  refinementBytes : ℤ := 0
  criticalLoadMs : ℤ := 0
  refinementLoadMs : ℤ := 0
  errorCode : String := ""
  errorMessage : String := ""
  deriving DecidableEq, Repr

/-- The estimator's current view of the network. -/
structure NetworkEstimate where
  bandwidthBps : ℚ
  rttMs : ℚ
  lossRate : ℚ := 0
  lastUpdateMs : ℤ := 0
  deriving DecidableEq

/-- An encoded tensor.  A missing shape (`None`) decodes to one dimension. -/
structure EncodedBlob where
  codecName : String
  data : Bytes
  shape : Option (List ℤ)
  dtype : String
  nbytes : ℤ
  deriving DecidableEq, Repr

end AwareKV

import AwareKV.Types

/-!
# AwareKV.Config — the connector's configuration

Translation of the dataclasses of `config.py`, with their defaults.  The last three fields of
`DeadlineKVConfig` are attributes that the code reads from a configuration although the class does
not declare them; they are absent (`none`) in every configuration that `from_dict` or `from_yaml`
makes.
-/

namespace AwareKV

structure ManifestConfig where
  host : String := "127.0.0.1"
  port : ℤ := 8081
  url : String := "http://127.0.0.1:8081"
  deriving DecidableEq

structure DataConfig where
  host : String := "127.0.0.1"
  port : ℤ := 9001
  deriving DecidableEq

structure NetworkConfig where
  timeoutMs : ℤ := 1000
  refineTimeoutMs : ℤ := 150
  enableSimulation : Bool := false
  bandwidthMbps : ℤ := 1000
  rttMs : ℤ := 10
  lossPercent : ℚ := 0
  deriving DecidableEq

structure HostCacheConfig where
  maxBytes : ℤ := 4 * 1024 * 1024 * 1024
  evictionPolicy : String := "lru"
  deriving DecidableEq

structure PlannerConfig where
  policy : String := "rule_based"
  alpha : ℚ := 4 / 5
  minPrefixTokens : ℤ := 128
  deriving DecidableEq

/-- `DeadlineKVConfig`. -/
structure DeadlineKVConfig where
  modelId : String := "meta-llama/Llama-2-7b-hf"
  tokenizerId : String := "meta-llama/Llama-2-7b-hf"
  kvLayoutVersion : String := "v1-block-first"
  blockSize : ℤ := 16
  cacheDtype : String := "float16"
  numLayers : ℤ := 32
  ttftSloMs : ℤ := 500
  enableTier1HostCache : Bool := true
  enableRefinement : Bool := true
  criticalCodec : String := "int8_symm"
  refinementCodec : String := "fp16_raw"
  manifest : ManifestConfig := {}
  data : DataConfig := {}
  network : NetworkConfig := {}
  hostCache : HostCacheConfig := {}
  planner : PlannerConfig := {}
  /-- read by the worker with a default -/
  numKvHeads : Option ℤ := none
  /-- read by the worker with a default -/
  headSize : Option ℤ := none
  /-- read by the saver without a default -/
  objectFormatVersion : Option PyVal := none
  deriving DecidableEq

end AwareKV

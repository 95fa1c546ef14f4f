/-!
# Configuration

The tuning of an atlas: between which levels its cells lie, how many clients a cell holds
before it is split and how few before cells are merged, the periods of the background work,
and the length of bucket keys.  A configuration is sound if `check` accepts it; the checks run
in a fixed order and the first one that fails is reported.
-/

namespace LoadAtlas

/-- Tuning of an atlas.  Every field is a word of 64 bits; periods are in milliseconds. -/
structure Config where
  /-- Level of the cells created on first traffic. -/
  topLevel : UInt64 := 8
  /-- Deepest level that a split may produce. -/
  maxLevel : UInt64 := 16
  /-- A leaf with more clients than this is split. -/
  splitThreshold : UInt64 := 300
  /-- Leaves with fewer clients than this in total are merged into their parent. -/
  mergeThreshold : UInt64 := 200
  /-- Period of the merge sweep of each entity. -/
  mergeInterval : UInt64 := 30000
  /-- Length of one sub-interval of the window. -/
  rotationInterval : UInt64 := 10000
  /-- How long a request counts after its sub-interval closed. -/
  retention : UInt64 := 60000
  /-- Length of bucket keys. -/
  bucketPrecision : UInt64 := 9
  deriving DecidableEq, Inhabited

namespace Config

/-- The configuration used where nothing else is asked for. -/
def standard : Config :=
  {}

/-- The fields of a configuration. -/
inductive Field
  | topLevel
  | maxLevel
  | splitThreshold
  | mergeThreshold
  | mergeInterval
  | rotationInterval
  | retention
  | bucketPrecision
  deriving DecidableEq, Inhabited

/-- All fields, in the order in which they are written. -/
def fields : List Field :=
  [.topLevel, .maxLevel, .splitThreshold, .mergeThreshold, .mergeInterval, .rotationInterval,
    .retention, .bucketPrecision]

def Field.name : Field → String
  | .topLevel => "top_level"
  | .maxLevel => "max_level"
  | .splitThreshold => "split_threshold"
  | .mergeThreshold => "merge_threshold"
  | .mergeInterval => "merge_interval_ms"
  | .rotationInterval => "rotation_interval_ms"
  | .retention => "retention_ms"
  | .bucketPrecision => "bucket_precision"

def Field.ofName? (name : String) : Option Field :=
  fields.find? fun field => field.name = name

def get (config : Config) : Field → UInt64
  | .topLevel => config.topLevel
  | .maxLevel => config.maxLevel
  | .splitThreshold => config.splitThreshold
  | .mergeThreshold => config.mergeThreshold
  | .mergeInterval => config.mergeInterval
  | .rotationInterval => config.rotationInterval
  | .retention => config.retention
  | .bucketPrecision => config.bucketPrecision

def set (config : Config) (field : Field) (value : UInt64) : Config :=
  match field with
  | .topLevel => { config with topLevel := value }
  | .maxLevel => { config with maxLevel := value }
  | .splitThreshold => { config with splitThreshold := value }
  | .mergeThreshold => { config with mergeThreshold := value }
  | .mergeInterval => { config with mergeInterval := value }
  | .rotationInterval => { config with rotationInterval := value }
  | .retention => { config with retention := value }
  | .bucketPrecision => { config with bucketPrecision := value }

/-- The deepest level that any configuration may allow. -/
def deepestLevel : UInt64 :=
  30

/-- The longest bucket keys that any configuration may ask for. -/
def longestPrecision : UInt64 :=
  12

/-- Why a configuration is refused. -/
inductive Fault
  | levelTooDeep (maxLevel : UInt64)
  | levelsCrossed (topLevel maxLevel : UInt64)
  | thresholdsCrossed (mergeThreshold splitThreshold : UInt64)
  | zero (field : Field)
  | rotationTooLong (rotationInterval retention : UInt64)
  | badPrecision (bucketPrecision : UInt64)
  deriving DecidableEq, Inhabited

def Fault.message : Fault → String
  | .levelTooDeep maxLevel =>
      s!"max_level must be at most {deepestLevel}, got {maxLevel}"
  | .levelsCrossed topLevel maxLevel =>
      s!"top_level ({topLevel}) must not exceed max_level ({maxLevel})"
  | .thresholdsCrossed mergeThreshold splitThreshold =>
      s!"merge_threshold ({mergeThreshold}) must be below split_threshold ({splitThreshold})"
  | .zero field => s!"{field.name} must be greater than zero"
  | .rotationTooLong rotationInterval retention =>
      s!"rotation_interval_ms ({rotationInterval}) must not exceed retention_ms ({retention})"
  | .badPrecision bucketPrecision =>
      s!"bucket_precision must be within 1..={longestPrecision}, got {bucketPrecision}"

/-- The first thing wrong with a configuration, if there is one. -/
def fault? (config : Config) : Option Fault :=
  if deepestLevel < config.maxLevel then
    some (.levelTooDeep config.maxLevel)
  else if config.maxLevel < config.topLevel then
    some (.levelsCrossed config.topLevel config.maxLevel)
  else if config.mergeThreshold = 0 then
    some (.zero .mergeThreshold)
  else if config.splitThreshold ≤ config.mergeThreshold then
    some (.thresholdsCrossed config.mergeThreshold config.splitThreshold)
  else if config.mergeInterval = 0 then
    some (.zero .mergeInterval)
  else if config.rotationInterval = 0 then
    some (.zero .rotationInterval)
  else if config.retention = 0 then
    some (.zero .retention)
  else if config.retention < config.rotationInterval then
    some (.rotationTooLong config.rotationInterval config.retention)
  else if config.bucketPrecision < 1 ∨ longestPrecision < config.bucketPrecision then
    some (.badPrecision config.bucketPrecision)
  else none

/-- The configuration itself if it is sound, and else what is wrong with it. -/
def check (config : Config) : Except Fault Config :=
  match config.fault? with
  | none => .ok config
  | some fault => .error fault

end Config
end LoadAtlas

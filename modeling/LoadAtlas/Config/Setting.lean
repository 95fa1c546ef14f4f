import LoadAtlas.Config.Basic

/-!
# Settings

A configuration is built by a sequence of settings, each of which replaces one field, a pair
of fields or everything.  The last setting of a field wins.  A setting of a period takes a
duration, which counts as its whole milliseconds in a word of 64 bits.
-/

namespace LoadAtlas

/-- A span of time: seconds and a number of nanoseconds on top. -/
structure Duration where
  seconds : Nat
  nanoseconds : Nat := 0
  deriving DecidableEq, Inhabited

def Duration.milliseconds (duration : Duration) : Nat :=
  duration.seconds * 1000 + duration.nanoseconds / 1000000

/-- The milliseconds of a duration as a word, without the bits beyond it. -/
def Duration.word (duration : Duration) : UInt64 :=
  UInt64.ofNat duration.milliseconds

def Duration.ofMilliseconds (count : Nat) : Duration where
  seconds := count / 1000
  nanoseconds := count % 1000 * 1000000

namespace Config

/-- A period of a configuration as a span of time. -/
def span (config : Config) (period : Field) : Duration :=
  .ofMilliseconds (config.get period).toNat

/-- One step in building a configuration. -/
inductive Setting
  | levels (topLevel maxLevel : UInt64)
  | thresholds (splitThreshold mergeThreshold : UInt64)
  | splitThreshold (value : UInt64)
  | mergeThreshold (value : UInt64)
  | mergeInterval (interval : Duration)
  | rotationInterval (interval : Duration)
  | retention (span : Duration)
  | bucketPrecision (value : UInt64)
  | whole (config : Config)
  deriving Inhabited

def apply (config : Config) : Setting → Config
  | .levels topLevel maxLevel => { config with topLevel, maxLevel }
  | .thresholds splitThreshold mergeThreshold => { config with splitThreshold, mergeThreshold }
  | .splitThreshold value => { config with splitThreshold := value }
  | .mergeThreshold value => { config with mergeThreshold := value }
  | .mergeInterval interval => { config with mergeInterval := interval.word }
  | .rotationInterval interval => { config with rotationInterval := interval.word }
  | .retention span => { config with retention := span.word }
  | .bucketPrecision value => { config with bucketPrecision := value }
  | .whole replacement => replacement

def applyAll (config : Config) (settings : List Setting) : Config :=
  settings.foldl apply config

end Config
end LoadAtlas

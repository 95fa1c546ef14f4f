import LoadAtlas.Config.Setting
import LoadAtlas.Proofs.Config.Override
import LoadAtlas.Proofs.Engine.Orderly

/-!
# Settings take effect

Of the settings of an engine, only the last one that gives something to a field counts for that
field, whatever the others are.  A word is taken as it is.  A duration counts as its whole
milliseconds, of which the field keeps what fits into 64 bits: a span of more than half a
billion years comes back as a short one, and the checks do not see it.
-/

namespace LoadAtlas

/-! ## Durations -/

namespace Duration

/-- The nanoseconds stay below a second. -/
def Proper (duration : Duration) : Prop :=
  duration.nanoseconds < 1000000000

/-- The duration without what is beyond its last whole millisecond. -/
def floor (duration : Duration) : Duration :=
  { duration with nanoseconds := duration.nanoseconds - duration.nanoseconds % 1000000 }

@[simp] theorem milliseconds_ofMilliseconds (count : Nat) :
    (ofMilliseconds count).milliseconds = count := by
  simp only [milliseconds, ofMilliseconds]
  omega

theorem ofMilliseconds_milliseconds {duration : Duration} (proper : duration.Proper) :
    ofMilliseconds duration.milliseconds = duration.floor := by
  obtain ⟨seconds, nanoseconds⟩ := duration
  unfold Proper at proper
  simp only [ofMilliseconds, milliseconds, floor, mk.injEq]
  dsimp only at proper
  omega

@[simp] theorem toNat_word (duration : Duration) :
    duration.word.toNat = duration.milliseconds % 2 ^ 64 :=
  UInt64.toNat_ofNat'

end Duration

/-! ## What settings give -/

namespace Config

/-- What a setting gives to a field. -/
inductive Given
  | word (value : UInt64)
  | duration (span : Duration)

/-- The value that is asked of the field. -/
def Given.amount : Given → Nat
  | .word value => value.toNat
  | .duration span => span.milliseconds

def Setting.given? : Setting → Field → Option Given
  | .levels topLevel _, .topLevel => some (.word topLevel)
  | .levels _ maxLevel, .maxLevel => some (.word maxLevel)
  | .thresholds split _, .splitThreshold => some (.word split)
  | .thresholds _ merge, .mergeThreshold => some (.word merge)
  | .splitThreshold value, .splitThreshold => some (.word value)
  | .mergeThreshold value, .mergeThreshold => some (.word value)
  | .mergeInterval interval, .mergeInterval => some (.duration interval)
  | .rotationInterval interval, .rotationInterval => some (.duration interval)
  | .retention span, .retention => some (.duration span)
  | .bucketPrecision value, .bucketPrecision => some (.word value)
  | .whole config, field => some (.word (config.get field))
  | _, _ => none

/-- What the last setting that gives something to a field gives to it. -/
def last? (settings : List Setting) (field : Field) : Option Given :=
  (settings.filterMap (·.given? field)).getLast?

/-- The value that settings ask of a field. -/
def asked (settings : List Setting) (field : Field) : Nat :=
  ((last? settings field).map Given.amount).getD (standard.get field).toNat

/-- A setting writes the fields that it gives something to and no others. -/
theorem toNat_get_apply (config : Config) (setting : Setting) (field : Field) :
    ((config.apply setting).get field).toNat =
      ((setting.given? field).map fun given => given.amount % 2 ^ 64).getD
        (config.get field).toNat := by
  cases setting with
  | whole replacement =>
      cases field <;> exact (Nat.mod_eq_of_lt (UInt64.toNat_lt _)).symm
  | levels | thresholds | splitThreshold | mergeThreshold | mergeInterval | rotationInterval
      | retention | bucketPrecision =>
      cases field <;> simp [apply, get, Setting.given?, Given.amount]

@[simp] theorem last?_nil (field : Field) : last? [] field = none := rfl

theorem last?_append_singleton (settings : List Setting) (setting : Setting) (field : Field) :
    last? (settings ++ [setting]) field = (setting.given? field).or (last? settings field) := by
  cases given : setting.given? field <;> simp [last?, given]

/-- After any settings, each field has what fits of the value that is asked of it. -/
theorem toNat_get_applyAll (settings : List Setting) (field : Field) :
    ((standard.applyAll settings).get field).toNat = asked settings field % 2 ^ 64 := by
  induction settings using List.reverseRecOn with
  | nil => exact (Nat.mod_eq_of_lt (standard.get field).toNat_lt).symm
  | append_singleton settings setting induction =>
      rw [applyAll, List.foldl_append, List.foldl_cons, List.foldl_nil, toNat_get_apply, ← applyAll,
        induction, asked, asked, last?_append_singleton]
      cases setting.given? field <;> simp

/-- The periods alone are given as durations. -/
theorem period_of_given {setting : Setting} {field : Field} {span : Duration}
    (given : setting.given? field = some (.duration span)) :
    field ∈ [.mergeInterval, .rotationInterval, .retention] := by
  cases setting <;> cases field <;> simp_all [Setting.given?]

theorem exists_of_last? {settings : List Setting} {field : Field} {given : Given}
    (last : last? settings field = some given) :
    ∃ setting ∈ settings, setting.given? field = some given :=
  List.mem_filterMap.mp (List.mem_of_getLast? last)

end Config

/-! ## Building an engine -/

namespace Engine

open Config

theorem build_eq_ok_iff {settings : List Setting} : (∃ engine, build settings = .ok engine) ↔
    (standard.applyAll settings).Sound := by
  constructor
  · rintro ⟨engine, built⟩
    obtain ⟨tracker, known, _⟩ := orderly_of_startAt built
    exact (Tracker.start_eq_ok_iff.mp known).1
  · intro sound
    exact ⟨_, by
      rw [build, start, startAt, Tracker.start_eq_ok_iff.mpr ⟨sound, rfl⟩]
      rfl⟩

theorem config_of_build {settings : List Setting} {engine : Engine}
    (built : build settings = .ok engine) : engine.config = standard.applyAll settings := by
  obtain ⟨tracker, known, _, rfl⟩ := orderly_of_startAt built
  rw [(Tracker.start_eq_ok_iff.mp known).2]
  rfl

/-- How the configuration of an engine comes from the settings that it was built with. -/
structure Effective (settings : List Setting) (engine : Engine) : Prop where
  sound : engine.config.Sound
  /-- A field keeps what fits of the last value given for it. -/
  kept : ∀ field, (engine.config.get field).toNat = asked settings field % 2 ^ 64
  /-- It has that value whenever it fits, and only then. -/
  exact_iff : ∀ field,
    (engine.config.get field).toNat = asked settings field ↔ asked settings field < 2 ^ 64
  /-- It has the standard value if nothing was given for it. -/
  standard : ∀ field, last? settings field = none →
    engine.config.get field = Config.standard.get field
  /-- It has the last word given for it, if that was the last thing given for it. -/
  word : ∀ field value, last? settings field = some (.word value) →
    engine.config.get field = value
  /-- Other things than words are given for periods alone. -/
  period : ∀ field span, last? settings field = some (.duration span) →
    field ∈ [.mergeInterval, .rotationInterval, .retention]
  /-- A period is read back as the last duration given for it, without what is beyond its last
  whole millisecond, if these milliseconds fit, and as a shorter one otherwise. -/
  duration : ∀ field span, span.Proper → last? settings field = some (.duration span) →
    (engine.config.span field = span.floor ↔ span.milliseconds < 2 ^ 64) ∧
      engine.config.span field = .ofMilliseconds (span.milliseconds % 2 ^ 64)

theorem effective_of_build {settings : List Setting} {engine : Engine}
    (built : build settings = .ok engine) : Effective settings engine := by
  have kept : ∀ field, (engine.config.get field).toNat = asked settings field % 2 ^ 64 := by
    intro field
    rw [config_of_build built, toNat_get_applyAll]
  refine ⟨?_, kept, fun field => ?_, fun field last => ?_, fun field value last => ?_,
    fun field span last => ?_, fun field span proper last => ?_⟩
  · rw [config_of_build built]
    exact build_eq_ok_iff.mp ⟨engine, built⟩
  · rw [kept, Nat.mod_eq_iff_lt (by decide)]
  · rw [← UInt64.toNat_inj, kept, asked, last]
    exact Nat.mod_eq_of_lt (Config.standard.get field).toNat_lt
  · rw [← UInt64.toNat_inj, kept, asked, last]
    exact Nat.mod_eq_of_lt value.toNat_lt
  · obtain ⟨setting, _, given⟩ := exists_of_last? last
    exact period_of_given given
  · have read : engine.config.span field = .ofMilliseconds (span.milliseconds % 2 ^ 64) := by
      rw [Config.span, kept, asked, last]
      rfl
    refine ⟨?_, read⟩
    rw [read, ← Duration.ofMilliseconds_milliseconds proper]
    refine ⟨fun same => ?_, fun fits => by rw [Nat.mod_eq_of_lt fits]⟩
    have counts := congrArg Duration.milliseconds same
    rw [Duration.milliseconds_ofMilliseconds, Duration.milliseconds_ofMilliseconds] at counts
    exact (Nat.mod_eq_iff_lt (by decide)).mp counts

/-- Settings that give things again to the same fields. -/
def repeated : List Setting :=
  [.retention ⟨5, 0⟩, .levels 6 14, .whole {}, .mergeThreshold 20, .retention ⟨30, 1999999⟩]

theorem effective_of_repeated :
    ∃ engine, build repeated = .ok engine ∧ Effective repeated engine := by
  obtain ⟨engine, built⟩ : ∃ engine, build repeated = .ok engine :=
    build_eq_ok_iff.mpr (Config.sound_iff.mpr (by decide))
  exact ⟨engine, built, effective_of_build built⟩

/-- Seconds whose milliseconds are just beyond 64 bits. -/
def beyond : Duration where
  seconds := 18446744073709612

/-- An engine that should keep its requests for half a billion years is built, and keeps them
for a minute. -/
theorem not_forall_asked : ¬ ∀ settings engine, build settings = .ok engine →
    ∀ field, (engine.config.get field).toNat = asked settings field := by
  intro all
  obtain ⟨engine, built⟩ : ∃ engine, build [.retention beyond] = .ok engine :=
    build_eq_ok_iff.mpr (Config.sound_iff.mpr (by decide))
  have kept := all _ engine built .retention
  rw [config_of_build built] at kept
  exact absurd kept (by decide)

end Engine
end LoadAtlas

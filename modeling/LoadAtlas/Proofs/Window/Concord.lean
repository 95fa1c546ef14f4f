import LoadAtlas.Proofs.Atlas.OneTree
import LoadAtlas.Proofs.Window.Counter
import LoadAtlas.Window.Session

/-!
# Views during a session

Callers ask an atlas directly, and a tracker counts requests in it and lets them expire.  A call
changes the atlas by requests, by clients in buckets that lie where their keys say, or not at
all.  So after any calls, those that count clients behind the tracker's back included, all views
of the atlas still show one tree for each entity.
-/

namespace LoadAtlas
namespace Decay

/-- What the calls of a session keep, even if the windows and the atlas no longer agree. -/
structure Tended (decay : Decay) : Prop where
  atlas : decay.tracker.atlas.WellFormed
  rooted : decay.tracker.atlas.Rooted
  interval : ∀ entity, (decay.tracker.counter entity).interval.Sound
  waiting : ∀ closed ∈ decay.waiting, closed.requests.Sound

variable {decay : Decay} {entity : String} {location : Location}

theorem Tended.start {config : Config} {tracker : Tracker}
    (started : Tracker.start config = .ok tracker) : Tended { tracker } := by
  obtain ⟨sound, rfl⟩ := Tracker.start_eq_ok_iff.mp started
  have empty := Atlas.start_eq_ok_iff.mpr ⟨sound, rfl⟩
  refine ⟨.start empty, Atlas.rooted_of_start empty, fun entity => ?_, by simp⟩
  have nothing : Tracker.counter { atlas := { config } } entity = {} := by simp [Tracker.counter]
  rw [nothing]
  exact Tally.sound_empty

namespace Tended

variable (tended : decay.Tended)

include tended

theorem record {address : Bucket.Address} (sound : address.Sound) (entity : String) : Tended
    { decay with tracker := (decay.tracker.count entity address).chart entity address } where
  atlas := tended.atlas.insertBucket sound Nat.one_pos entity
  rooted := tended.rooted.insertBucket tended.atlas sound Nat.one_pos entity
  interval other := by
    rw [Tracker.counter_chart, Tracker.counter_count]
    split
    · exact (tended.interval entity).add Nat.one_pos sound
    · exact tended.interval other
  waiting := tended.waiting

theorem rotate : Tended {
    tracker := decay.tracker.rotate.1, waiting := decay.waiting ++ decay.tracker.rotate.2 } where
  atlas := tended.atlas
  rooted := tended.rooted
  interval entity := by
    rw [Tracker.counter_rotate]
    split
    · exact tended.interval entity
    · exact Tally.sound_empty
  waiting closed member := (List.mem_append.mp member).elim (tended.waiting closed)
    (Tracker.sound_of_rotate tended.interval)

theorem expire {closed : ClosedInterval} {place : Nat}
    (found : decay.waiting[place]? = some closed) : Tended {
      tracker := decay.tracker.expire closed, waiting := decay.waiting.eraseIdx place } := by
  have sound : ∀ entry ∈ closed.requests.buckets.toList, entry.2.Sound entry.1 :=
    fun entry listed => (tended.waiting closed (List.mem_of_getElem? found)).buckets entry.1
      entry.2 (Std.ExtTreeMap.mem_toList_iff_getElem?_eq_some.mp listed)
  exact {
    atlas := tended.atlas.removeBuckets sound closed.entity
    rooted := tended.rooted.congr (decay.tracker.atlas.topCells?_removeBuckets closed.entity _)
    interval entity := by
      have same := (decay.tracker.withdraw closed).interval_forget closed entity
      exact same ▸ tended.interval entity
    waiting other waits := tended.waiting other (List.mem_of_mem_eraseIdx waits) }

theorem withAtlas {atlas : Atlas} (wellFormed : atlas.WellFormed) (rooted : atlas.Rooted) :
    (decay.withAtlas atlas).Tended :=
  ⟨wellFormed, rooted, tended.interval, tended.waiting⟩

theorem serve (call : Call) : (decay.serve call).1.Tended := by
  cases call with
  | record entity location =>
      cases recorded : decay.tracker.record entity location with
      | error fault => simpa only [Decay.serve, recorded] using tended
      | ok tracker =>
          obtain ⟨address, accepted, rfl⟩ := Tracker.record_eq_ok_iff.mp recorded
          simp only [Decay.serve, recorded]
          exact tended.record (Tracker.sound_of_accept accepted) entity
  | rotate => exact tended.rotate
  | expire entity index =>
      cases placed : ClosedInterval.place? entity index decay.waiting with
      | none => simpa only [Decay.serve, placed] using tended
      | some place =>
          cases found : decay.waiting[place]? with
          | none => simpa only [Decay.serve, placed, step, found] using tended
          | some closed =>
              simp only [Decay.serve, placed, step, found]
              exact tended.expire found
  | load entity => exact tended
  | breakdown entity => exact tended
  | entities => exact tended
  | stats => exact tended
  | atlas request =>
      have effect := decay.tracker.atlas.effect_serve request
      exact tended.withAtlas (effect.wellFormed tended.atlas)
        (effect.rooted tended.atlas tended.rooted)

theorem serveAll (calls : List Call) : (decay.serveAll calls).Tended :=
  List.foldlRecOn (motive := Tended) calls _ tended fun _ known call _ => known.serve call

end Tended

end Decay
end LoadAtlas

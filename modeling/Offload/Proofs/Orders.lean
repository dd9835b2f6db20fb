import Offload.Proofs.Chronicle
import Offload.Proofs.ImageBounds
import Offload.Proofs.Launches

/-! Commands as the host puts them into queues. Each makes one call at most, and what comes of it is
one event that remembers its wait-list and its time, or an error and nothing else. -/
namespace Offload.Host
open Simulator

/-- What can be put into a queue. -/
inductive Order where
  | write (buffer : Memory) (offset size : Nat) (data : Option Block)
  | read (buffer : Memory) (offset size : Nat) (target : Option Block)
  | copy (source target : Memory) (sourceOffset targetOffset size : Nat)
  | fill (buffer : Memory) (pattern : Bytes) (offset size : Nat)
  | readImage (image : Memory) (region : ImageRegion) (memory : Block)
  | readImageInto (image : Memory) (region : ImageRegion) (target : Option Block)
  | writeImage (image : Memory) (region : ImageRegion) (data : Block)
  | writeImageFrom (image : Memory) (region : ImageRegion) (data : Option Block)
  | dispatch (kernel : Kernel) (globals : List Nat) (offsets locals : Option (List Nat))
  | barrier
  | marker

/-- Puts a command into a queue. -/
def Order.place (queue : Queue) (waits : List Event) : Order → Action Machine Event
  | .write buffer offset size data => queue.write Machine.driver buffer offset size data waits
  | .read buffer offset size target =>
    queue.read Machine.driver buffer offset size target waits >>= Reading.event
  | .copy source target sourceOffset targetOffset size =>
    queue.copy Machine.driver source target sourceOffset targetOffset size waits
  | .fill buffer pattern offset size => queue.fill Machine.driver buffer pattern offset size waits
  | .readImage image region memory =>
    queue.readImage Machine.driver image region memory waits >>= Reading.event
  | .readImageInto image region target =>
    queue.readImageInto Machine.driver image region target waits >>= Reading.event
  | .writeImage image region data => queue.writeImage Machine.driver image region data waits
  | .writeImageFrom image region data => queue.writeImageFrom Machine.driver image region data waits
  | .dispatch kernel globals offsets locals =>
    queue.dispatch Machine.driver kernel globals offsets locals waits
  | .barrier => queue.barrier Machine.driver waits
  | .marker => queue.marker Machine.driver waits

/-- How an operation goes about a command: it stops before the call, or makes it and hands its event on
if the runtime comes back with one. -/
inductive Placed (queue : Queue) (waits : List Event) (action : Action Machine Event)
    (scene : Scene Machine) : Prop where
  | uncalled (failed : ∀ event, (action.perform scene).1 ≠ .ok event)
      (same : (action.perform scene).2.world = scene.world)
  | called (command : Command)
      (world : (action.perform scene).2.world = scene.world.after (.call (queue.request waits command)))
      (answered : ∀ event, (action.perform scene).1 = .ok event ↔
        ∃ response, (scene.world.perform (queue.request waits command)).1 = .ok response ∧
          checkHandle response.status response.handle = .ok event.owned.handle)

theorem Placed.of_settles {queue : Queue} {waits : List Event} {action : Action Machine Event} {stop : Stop}
    (settles : Settles action (.error stop)) (scene : Scene Machine) : Placed queue waits action scene := by
  refine .uncalled (fun event placed => ?_) ?_
  · rw [settles scene] at placed
    cases placed
  · rw [settles scene]

private theorem Placed.congr {queue : Queue} {waits : List Event} {action other : Action Machine Event}
    {scene another : Scene Machine} (placed : Placed queue waits other another)
    (same : action.perform scene = other.perform another) (world : another.world = scene.world) :
    Placed queue waits action scene := by
  cases placed with
  | uncalled failed kept => exact .uncalled (same ▸ failed) (same ▸ kept.trans world)
  | called command after answered =>
    rw [world] at after answered
    exact .called command (same ▸ after) (same ▸ answered)

/-- Whatever is done with a submission, as long as its event is handed on. -/
theorem submit_placed {queue : Queue} {waits : List Event} {command : Action Machine Command}
    (naming : ∃ result, Settles command result) {next : Submission → Action Machine Event}
    (hands : ∀ submission scene, (next submission).perform scene =
      (submission.outcome.mapError .failed, scene)) (scene : Scene Machine) :
    Placed queue waits (queue.submit Machine.driver waits command >>= next) scene := by
  -- Three things can stop a command before its call: a released event in the wait-list, a released
  -- queue, and whatever the command itself names.
  rcases useAll_cases (waits.map Event.owned) with owned | ⟨stop, listed⟩
  · have listed : ∀ event ∈ waits, event.owned.handle ≠ 0 := fun event waiting =>
      owned event.owned (List.mem_map_of_mem waiting)
    have handles := Event.settles_handles listed
    by_cases held : queue.owned.handle = 0
    · exact .of_settles (.bind_error (.bind_ok handles (.bind_error (settles_use_of_released held)))) scene
    · obtain ⟨stop | named, naming⟩ := naming
      · exact .of_settles (.bind_error (.bind_ok handles (.bind_ok (settles_use held) (.bind_error naming))))
          scene
      · rcases answered : scene.world.perform (queue.request waits named) with ⟨answer, world⟩
        obtain ⟨notices, submitted⟩ := Queue.perform_submit held listed naming answered
        cases answer with
        | error found =>
          have performed : (queue.submit Machine.driver waits command >>= next).perform scene =
              (.error (.faulted found), ⟨world, notices⟩) := by
            rw [Action.perform_bind, submitted]
          refine .called named (by rw [performed, Machine.after, answered]) fun event => ?_
          rw [performed, answered]
          refine iff_of_false ?_ ?_
          · rintro ⟨⟩
          · rintro ⟨_, ⟨⟩, _⟩
        | ok response =>
          have performed : (queue.submit Machine.driver waits command >>= next).perform scene =
              (((checkHandle response.status response.handle).map fun event => ⟨⟨event⟩⟩).mapError .failed,
                ⟨world, notices⟩) := by
            rw [Action.perform_bind, submitted]
            exact hands _ _
          refine .called named (by rw [performed, Machine.after, answered]) fun event => ?_
          rw [performed, answered]
          cases checked : checkHandle response.status response.handle with
          | error error =>
            refine iff_of_false ?_ ?_
            · rintro ⟨⟩
            · rintro ⟨_, ⟨⟩, accepted⟩
              cases checked.symm.trans accepted
          | ok handle =>
            constructor
            · rintro ⟨⟩
              exact ⟨response, rfl, checked⟩
            · rintro ⟨_, ⟨⟩, accepted⟩
              cases checked.symm.trans accepted
              rfl
  · exact .of_settles (.bind_error (.bind_error listed)) scene

theorem enqueue_placed {queue : Queue} {waits : List Event} {command : Action Machine Command}
    (naming : ∃ result, Settles command result) (scene : Scene Machine) :
    Placed queue waits (queue.enqueue Machine.driver waits command) scene := by
  refine submit_placed naming (fun submission scene => ?_) scene
  cases submission.outcome <;> rfl

private theorem reading_placed {queue : Queue} {waits : List Event} {command : Action Machine Command}
    (naming : ∃ result, Settles command result) (memory : Block) (scene : Scene Machine) :
    Placed queue waits ((queue.submit Machine.driver waits command >>= fun submission =>
      pure (submission.into memory)) >>= Reading.event) scene := by
  rw [bind_assoc]
  refine submit_placed naming (fun submission scene => ?_) scene
  rw [pure_bind, Reading.event, Submission.into]
  cases submission.outcome <;> rfl

theorem exists_settles_command {kind : ObjectKind} (owned : Owned kind) (command : Nat → Command) :
    ∃ result, Settles (do pure (command (← owned.use)) : Action Machine Command) result := by
  obtain ⟨stop | handle, used⟩ := exists_settles_use owned
  · exact ⟨_, .bind_error used⟩
  · exact ⟨_, .bind_ok used fun _ => rfl⟩

private theorem dispatch_placed {queue : Queue} {waits : List Event} {kernel : Kernel} {globals : List Nat}
    {offsets locals : Option (List Nat)} (scene : Scene Machine) :
    Placed queue waits (queue.dispatch Machine.driver kernel globals offsets locals waits) scene := by
  by_cases host : ∀ rule ∈ hostRules globals offsets locals, rule.holds
  · have naming := exists_settles_command kernel.owned fun handle =>
      .dispatch handle (globals.length % halfRange) offsets (some globals) locals
    exact .congr (enqueue_placed naming (noted scene kernel globals locals))
      (perform_dispatch host) rfl
  · obtain ⟨error, breaks⟩ := exists_breaks host
    exact .of_settles (fun _ => perform_dispatch_of_breaks breaks) scene

/-- Whatever is put into a queue, it is one call that decides. -/
theorem Order.placed (queue : Queue) (waits : List Event) (order : Order) (scene : Scene Machine) :
    Placed queue waits (order.place queue waits) scene := by
  cases order with
  | write buffer | fill buffer | writeImageFrom buffer =>
    exact enqueue_placed (exists_settles_command buffer.owned _) scene
  | read buffer | readImageInto buffer =>
    exact reading_placed (exists_settles_command buffer.owned _) _ scene
  | copy source target =>
    refine enqueue_placed ?_ scene
    obtain ⟨stop | _, used⟩ := exists_settles_use source.owned
    · exact ⟨_, .bind_error used⟩
    · obtain ⟨stop | _, also⟩ := exists_settles_use target.owned
      · exact ⟨_, .bind_ok used (.bind_error also)⟩
      · exact ⟨_, .bind_ok used (.bind_ok also fun _ => rfl)⟩
  | readImage image region memory =>
    -- The size of the host memory is checked before anything is used.
    dsimp only [place, Queue.readImage]
    cases Queue.imageDataError? image region memory.size with
    | some error => exact .of_settles (fun _ => rfl) scene
    | none => exact reading_placed (exists_settles_command image.owned _) memory scene
  | writeImage image region data =>
    dsimp only [place, Queue.writeImage]
    cases Queue.imageDataError? image region data.size with
    | some error => exact .of_settles (fun _ => rfl) scene
    | none => exact enqueue_placed (exists_settles_command image.owned _) scene
  | dispatch => exact dispatch_placed scene
  | barrier | marker => exact enqueue_placed ⟨.ok _, fun _ => rfl⟩ scene

/-- A queue that was made with these properties, on a runtime which has gone on since. -/
inductive Opened (properties : UInt64) : Machine → Queue → Prop where
  | made {scene after : Scene Machine} {context : Context} {device : Device} {queue : Queue}
      (reachable : scene.world.Reachable)
      (performed : (context.newQueue Machine.driver device properties).perform scene = (.ok queue, after))
      (happenings : List Happening) : Opened properties (after.world.run happenings) queue

/-- Whatever has happened since, a queue that is still there has the properties that it was made with. -/
theorem Opened.properties_eq {properties stored : UInt64} {machine : Machine} {queue : Queue}
    (opened : Opened properties machine queue)
    (found : machine.store.queue queue.owned.handle = .ok stored) : stored = properties := by
  obtain ⟨reachable, performed, happenings⟩ := opened
  obtain ⟨used, _⟩ := Accepts.of_use ⟨_, _, performed⟩
  rw [Context.newQueue, used.perform_bind] at performed
  obtain ⟨response, world, answered, handled, adopted⟩ := answered_of_obtain performed
  cases adopted
  obtain ⟨_, object, accepted, named, after⟩ := created_of_answered rfl answered handled
  obtain ⟨_, _, _, _, rfl⟩ := Store.newQueue_ok accepted
  have first := reachable.orderly
  have orderly := first.changed (change_of_performed answered)
  have descends := (Machine.change_run _ happenings).descends_of_find? orderly
    (after ▸ first.find?_add _) (named ▸ Store.queue_ok_iff.mp found)
  cases Endures.of_descends descends
  rfl

/-- What an event answers when it is asked for a moment of its command. -/
def Event.moment (scene : Scene Machine) (event : Event) (stamp : ProfilingStamp) : Except Stop Int :=
  ((event.stamp Machine.driver stamp).perform scene).1

/-- What an event tells about its time is what was recorded of its command. User events have nothing
to tell. -/
structure Tells (recorded : List Entry) (scene : Scene Machine) (event : Event) : Prop where
  user : ∀ status, scene.world.store.event event.owned.handle = .ok (.user status) →
    ∀ stamp, event.moment scene stamp = Event.profiled none stamp
  command : ∀ waits queuedAt,
    scene.world.store.event event.owned.handle = .ok (.command waits queuedAt) →
      ⟨event.owned.handle, waits, queuedAt⟩ ∈ recorded ∧
        ∀ stamp, event.moment scene stamp = Event.profiled queuedAt stamp

/-- A command that has been put into a queue after a run: one object is new, its event, which keeps the
wait-list as it was given and the time for as long as it is there. -/
structure Recorded (start : Machine) (happenings : List Happening) (waits : List Event)
    (queuedAt : Option Nat) (event : Event) (after : Machine) : Prop where
  alone : newKeys (start.run happenings).store after.store = [event.owned.handle]
  stored : after.store.event event.owned.handle = .ok (.command (waits.map (·.owned.handle)) queuedAt)
  kept : ∀ rest found, (after.run rest).store.event event.owned.handle = .ok found →
    found = .command (waits.map (·.owned.handle)) queuedAt
  listed : after.lastWaits = waits.map (·.owned.handle)
  continued : ∃ request, after = start.run (happenings ++ [.call request]) ∧
    start.chronicle (happenings ++ [.call request]) =
      start.chronicle happenings ++ [⟨event.owned.handle, waits.map (·.owned.handle), queuedAt⟩]

section
variable {platforms devices : Nat} {happenings : List Happening} {scene : Scene Machine}
  (ran : scene.world = (Machine.ofTopology platforms devices).run happenings)
include ran

theorem tells_recorded (serving : scene.world.halted = false)
    (allowed : scene.world.injection.failure? (.info .profiling) = none)
    (early : scene.world.store.clock < 2 ^ 64) (event : Event) :
    Tells ((Machine.ofTopology platforms devices).chronicle happenings) scene event := by
  have reachable : scene.world.Reachable := ⟨platforms, devices, happenings, ran⟩
  have orderly := Orderly.initial platforms devices
  constructor
  · intro status found stamp
    have present := Store.event_ok_iff.mp found
    exact Event.perform_stamp_of_user (reachable.ne_zero present) serving allowed present stamp
  · intro waits queuedAt found
    have present := Store.event_ok_iff.mp found
    rcases Machine.mem_chronicle orderly (ran ▸ present) with impossible | member
    · cases impossible
    · refine ⟨member, fun stamp => ?_⟩
      refine Event.perform_stamp (reachable.ne_zero present) serving allowed present (fun tick timed => ?_) stamp
      have passed := (Machine.chronicle_bounds orderly member).2 tick timed
      rw [← ran] at passed
      exact Nat.le_trans passed (Nat.le_of_lt early)

private theorem Placed.recorded {queue : Queue} {waits : List Event} {action : Action Machine Event}
    (placed : Placed queue waits action scene) (few : waits.length < 2 ^ 32) {event : Event}
    {properties : UInt64} (performed : (action.perform scene).1 = .ok event) (opened : Opened properties scene.world queue) :
    Recorded (.ofTopology platforms devices) happenings waits (scene.world.store.firstTick? properties) event
      (action.perform scene).2.world := by
  have reachable : scene.world.Reachable := ⟨platforms, devices, happenings, ran⟩
  cases placed with
  | uncalled failed => exact (failed event performed).elim
  | called command world answered =>
    obtain ⟨response, came, accepted⟩ := (answered event).mp performed
    obtain ⟨⟨_, object⟩, named⟩ := checkHandle_ok_iff.mp accepted
    obtain ⟨stored, found, keys, present, entries, listed⟩ :=
      (outcome_perform scene.world (queue.request waits command)).recorded
        (Nat.lt_of_le_of_lt (Nat.le_of_eq (List.length_map _)) few) came object reachable.orderly
    obtain rfl := opened.properties_eq found
    rw [named] at keys present entries
    rw [world]
    refine ⟨?_, Store.event_ok_iff.mpr present, fun rest later found => ?_, listed,
      queue.request waits command, ?_, ?_⟩
    · rw [← ran]
      exact keys
    · have orderly := (reachable.after (.call (queue.request waits command))).orderly
      have descends := (Machine.change_run _ rest).descends_of_find? orderly present
        (Store.event_ok_iff.mp found)
      cases Endures.of_descends descends
      rfl
    · rw [Machine.run_append, ← ran]
      rfl
    · rw [Machine.chronicle_append, ← ran]
      exact congrArg _ ((List.append_nil _).trans entries)

omit ran in
private theorem Placed.same {queue : Queue} {waits : List Event} {action : Action Machine Event}
    (placed : Placed queue waits action scene) (failed : ∀ event, (action.perform scene).1 ≠ .ok event) :
    (action.perform scene).2.world.store = scene.world.store := by
  cases placed with
  | uncalled _ same => rw [same]
  | called command world answered =>
    rw [world]
    refine (outcome_perform scene.world (queue.request waits command)).unrecorded fun response came success => ?_
    by_cases null : response.handle = 0
    · exact null
    · have accepted := checkHandle_ok_iff.mpr ⟨⟨success, null⟩, rfl⟩
      exact (failed ⟨⟨response.handle⟩⟩ ((answered _).mpr ⟨response, came, accepted⟩)).elim

end

/-- In every run, the ticks of a command lie behind those of all earlier ones, on whichever queues, and
each event tells what was recorded of its command. A command that is put into a queue adds one object,
its event, with the wait-list as it was given and, if the queue was made for profiling, the time; one
that does not come back with an event has changed nothing and has taken no time. -/
theorem commands_recorded {platforms devices : Nat} {happenings : List Happening} {scene : Scene Machine}
    (ran : scene.world = (Machine.ofTopology platforms devices).run happenings) :
    let start := Machine.ofTopology platforms devices
    ((start.chronicle happenings).Pairwise Entry.Precedes ∧
      ∀ entry ∈ start.chronicle happenings, entry.Ascends) ∧
    (scene.world.halted = false → scene.world.injection.failure? (.info .profiling) = none →
      scene.world.store.clock < 2 ^ 64 → ∀ event : Event, Tells (start.chronicle happenings) scene event) ∧
    ∀ (queue : Queue) (waits : List Event) (order : Order),
      let placed := (order.place queue waits).perform scene
      (waits.length < 2 ^ 32 → ∀ event properties, placed.1 = .ok event →
        Opened properties scene.world queue →
        Recorded start happenings waits (scene.world.store.firstTick? properties) event placed.2.world) ∧
      ((∀ event, placed.1 ≠ .ok event) → placed.2.world.store = scene.world.store) := by
  intro start
  have orderly : Orderly start.store := Orderly.initial platforms devices
  refine ⟨⟨Machine.chronicle_ordered orderly happenings, fun entry _ => entry.ascends⟩,
    tells_recorded ran, fun queue waits order => ?_⟩
  have placed := order.placed queue waits scene
  exact ⟨fun few event properties performed opened => placed.recorded ran few performed opened, placed.same⟩

/-- Two queues, of which the second is for profiling, a user event, and a marker in each queue. -/
def twoQueues : List Happening := [
  .call (.createContext ⟨1, some [deviceId 0 0]⟩),
  .call (.createQueue (handleOf 1) (deviceId 0 0) 0x2),
  .call (.createQueue (handleOf 1) (deviceId 0 0) 0),
  .call (.createUserEvent (handleOf 1)),
  .call (.enqueue (handleOf 2) .marker ⟨0, none⟩ true),
  .call (.enqueue (handleOf 3) .marker ⟨1, some [handleOf 4]⟩ true)]

/-- The scene after all that has happened. -/
def twoQueuesScene : Scene Machine where
  world := (Machine.ofTopology 1 1).run twoQueues

private def profilingQueue : Queue := ⟨⟨handleOf 2⟩, ⟨deviceId 0 0⟩, 0x2⟩

private theorem profilingQueue_opened : Opened 0x2 twoQueuesScene.world profilingQueue := by
  let context : Context := ⟨⟨handleOf 1⟩, [⟨deviceId 0 0⟩]⟩
  let scene : Scene Machine := ⟨(Machine.ofTopology 1 1).run (twoQueues.take 1), []⟩
  let made := (context.newQueue Machine.driver ⟨deviceId 0 0⟩ 0x2).perform scene
  have performed : made = (.ok profilingQueue, made.2) := rfl
  have continued : twoQueuesScene.world = made.2.world.run (twoQueues.drop 2) := by decide +kernel
  exact continued ▸ .made ⟨1, 1, _, rfl⟩ performed (twoQueues.drop 2)

/-- The next marker in the profiling queue is timed behind the first one, and it waits for an event as
often as it was given. The other queue tells no time. A read from released memory takes none. -/
theorem twoQueues_recorded :
    let earlier : Event := ⟨⟨handleOf 5⟩⟩
    let plain : Event := ⟨⟨handleOf 6⟩⟩
    let placed := (Order.marker.place profilingQueue [plain, earlier, plain]).perform twoQueuesScene
    let failed := ((Order.read ⟨⟨0⟩, .buffer 8⟩ 0 4 none).place profilingQueue []).perform twoQueuesScene
    earlier.moment twoQueuesScene .finish = .ok 3 ∧
      plain.moment twoQueuesScene .queued = .error (.failed (.native .profilingInfoNotAvailable)) ∧
      placed.2.world.store.event (handleOf 7) =
        .ok (.command [handleOf 6, handleOf 5, handleOf 6] (some 4)) ∧
      failed.2.world.store = twoQueuesScene.world.store := by
  intro earlier plain placed failed
  obtain ⟨_, tells, places⟩ := @commands_recorded 1 1 twoQueues twoQueuesScene rfl
  have told := tells rfl rfl (by decide +kernel)
  have timed := (told earlier).command [] (some 0)
    (Store.event_ok_iff.mpr (by decide +kernel))
  have untimed := (told plain).command [handleOf 4] none
    (Store.event_ok_iff.mpr (by decide +kernel))
  obtain ⟨recorded, _⟩ := places profilingQueue [plain, earlier, plain] .marker
  obtain ⟨_, unchanged⟩ := places profilingQueue [] (.read ⟨⟨0⟩, .buffer 8⟩ 0 4 none)
  exact ⟨timed.2 .finish, untimed.2 .queued, (recorded (by decide) ⟨⟨handleOf 7⟩⟩ 0x2 rfl profilingQueue_opened).stored,
    unchanged nofun⟩

end Offload.Host

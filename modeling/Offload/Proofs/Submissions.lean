import Offload.Proofs.EventAnswers
import Offload.Proofs.Handles

/-! What becomes of a command that nothing stands in the way of. Either it is carried out: its
effect is applied and its event is the only object that is new. Or it is refused with one of the
listed errors, and no object has changed. -/
namespace Offload.Simulator

/-- Every object is as it was; others may be new. -/
def Extends (before after : Store) : Prop :=
  ∀ id object, before.objects.find? id = some object → after.objects.find? id = some object

/-- The data of one memory object has been replaced and every other object is as it was; others
may be new. -/
structure Rewrites (before after : Store) (target : Nat) (memory : Memory) (data : Block) : Prop where
  written : after.memory target = .ok { memory with data := data }
  others : ∀ id object, id ≠ target → before.objects.find? id = some object →
    after.objects.find? id = some object

/-- A runtime after it has carried out a command. -/
structure Carried (before after : Machine) (effect : Effect) (event : Nat) : Prop where
  reachable : after.Reachable
  serving : after.halted = false
  injection : after.injection = before.injection
  recorded : ∃ found, after.store.event event = .ok found
  objects : ∃ waits queuedAt, after.store.objects =
    (before.store.apply effect).objects.insert event (.event (.command waits queuedAt))

theorem Machine.Reachable.after {machine : Machine} (reachable : machine.Reachable)
    (happening : Happening) : (machine.after happening).Reachable := by
  obtain ⟨platforms, devices, happenings, rfl⟩ := reachable
  refine ⟨platforms, devices, happenings ++ [happening], ?_⟩
  rw [run_append]
  rfl

theorem Machine.Reachable.run {machine : Machine} (reachable : machine.Reachable)
    (happenings : List Happening) : (machine.run happenings).Reachable := by
  induction happenings generalizing machine with
  | nil => exact reachable
  | cons first rest ih => exact ih (reachable.after first)

theorem Machine.Reachable.of_answered {machine after : Machine} {request : Request}
    {answer : Except Fault Response} (reachable : machine.Reachable)
    (answered : machine.perform request = (answer, after)) : after.Reachable := by
  have moved := reachable.after (.call request)
  rw [Machine.after, answered] at moved
  exact moved

/-- A list of events that all exist is a wait-list, if a call can count it. -/
theorem Machine.waitList_of_live {store : Store} {handles : List Nat} (few : handles.length < halfRange)
    (live : ∀ handle ∈ handles, ∃ event, store.event handle = .ok event) :
    waitList store (.ofList handles) = .ok handles := by
  rw [HandleList.ofList_of_lt few]
  cases handles with
  | nil => rfl
  | cons first rest =>
    have checked := Store.checkEvents_of_live .invalidEventWaitList live
    have all : (first :: rest).take (first :: rest).length = first :: rest := List.take_length
    simp only [waitList, List.isEmpty_cons, Bool.false_eq_true, if_false, List.length_cons, Nat.succ_ne_zero]
    rw [← List.length_cons (a := first), all, checked]
    rfl

namespace Carried
variable {before after : Machine} {effect : Effect} {event : Nat}

theorem find? (carried : Carried before after effect event) {id : Nat} {object : Object}
    (found : (before.store.apply effect).objects.find? id = some object) :
    after.store.objects.find? id = some object := by
  obtain ⟨waits, queuedAt, objects⟩ := carried.objects
  rw [objects]
  exact Table.find?_insert_of_found found

/-- Objects that hold no memory are left alone by every command. -/
theorem find?_of_other (carried : Carried before after effect event) {id : Nat} {object : Object}
    (found : before.store.objects.find? id = some object) (other : object.kind ≠ .memory) :
    after.store.objects.find? id = some object := by
  apply carried.find?
  unfold Store.apply
  split
  · exact found
  · split
    · rename_i target data changed _ memory located
      have elsewhere : id ≠ target := by
        rintro rfl
        cases found.symm.trans (Store.memory_ok_iff.mp located)
        exact other rfl
      rw [Store.replace, Table.find?_replace, if_neg elsewhere]
      exact found
    · exact found

/-- A command that changes no memory leaves all objects as they were. -/
theorem extends_store (carried : Carried before after effect event) (still : effect.change = none) :
    Extends before.store after.store := by
  intro id object found
  have unchanged : before.store.apply effect = before.store := by
    simp only [Store.apply, still]
  apply carried.find?
  rw [unchanged]
  exact found

theorem rewrites (carried : Carried before after effect event) {target : Nat} {memory : Memory}
    {data : Block} (changed : effect.change = some (target, data))
    (located : before.store.memory target = .ok memory) :
    Rewrites before.store after.store target memory data := by
  have applied : before.store.apply effect =
      before.store.replace target (.memory { memory with data := data }) := by
    simp only [Store.apply, changed, located]
  constructor
  · apply Store.memory_ok_iff.mpr
    apply carried.find?
    rw [applied, Store.replace, Table.find?_replace, if_pos rfl, Store.memory_ok_iff.mp located]
    rfl
  · intro id object other found
    apply carried.find?
    rw [applied, Store.replace, Table.find?_replace, if_neg other]
    exact found

end Carried
end Offload.Simulator

namespace Offload.Host
open Simulator

/-- The runtime serves its calls, queue and wait-list are live, no failure is injected into
commands, and the wait-list is no longer than a call can count. -/
structure Ready (machine : Machine) (queue : Queue) (waits : List Event) : Prop where
  serving : machine.halted = false
  allowed : ∀ kind, machine.injection.failure? (.enqueue kind) = none
  queued : ∃ properties, machine.store.queue queue.owned.handle = .ok properties
  listed : ∀ event ∈ waits, ∃ found, machine.store.event event.owned.handle = .ok found
  few : waits.length < halfRange

/-- An action that stops with an error and leaves all objects as they were. -/
def Refused {α : Type} (action : Action Machine α) (scene : Scene Machine) (error : NativeError) : Prop :=
  ∃ after, action.perform scene = (.error (.failed (.native error)), after) ∧
    after.world.store = scene.world.store

theorem Refused.not_accepts {α : Type} {action : Action Machine α} {scene : Scene Machine}
    {error : NativeError} (refused : Refused action scene error) : ¬ Accepts action scene := by
  obtain ⟨after, stopped, _⟩ := refused
  rintro ⟨value, last, performed⟩
  cases stopped.symm.trans performed

/-- A command that comes back with its event once the data of a memory object has been replaced,
and that has changed nothing else. -/
def Stores (action : Action Machine Event) (scene : Scene Machine) (target : Nat)
    (memory : Simulator.Memory) (holds : Block → Prop) : Prop :=
  ∃ event after data, action.perform scene = (.ok event, after) ∧
    Rewrites scene.world.store after.world.store target memory data ∧ holds data

/-- A reading command that comes back with its event and has changed host memory only. -/
def Fetches (action : Action Machine Reading) (scene : Scene Machine) (holds : Block → Prop) : Prop :=
  ∃ event after memory, action.perform scene = (.ok ⟨memory, .ok event⟩, after) ∧
    Extends scene.world.store after.world.store ∧ holds memory

/-- A reading command that reports an error and leaves host memory and all objects as they were. -/
def Withholds (action : Action Machine Reading) (scene : Scene Machine) (memory : Block)
    (error : NativeError) : Prop :=
  ∃ after, action.perform scene = (.ok ⟨memory, .error (.native error)⟩, after) ∧
    after.world.store = scene.world.store

theorem settles_command {kind : ObjectKind} {owned : Owned kind} (held : owned.handle ≠ 0)
    (command : Nat → Command) :
    Settles (do pure (command (← owned.use))) (.ok (command owned.handle)) :=
  .bind_ok (settles_use held) fun _ => rfl

/-- What the runtime is asked when a command is put into a queue. -/
def Queue.request (queue : Queue) (waits : List Event) (command : Command) : Request :=
  .enqueue queue.owned.handle command (.ofList (waits.map (·.owned.handle))) true

/-- What the runtime answers to a command is handed on, unless an owner has been used up. -/
theorem Queue.perform_submit {scene : Scene Machine} {queue : Queue} {waits : List Event}
    {command : Action Machine Command} {named : Command} (held : queue.owned.handle ≠ 0)
    (listed : ∀ event ∈ waits, event.owned.handle ≠ 0) (naming : Settles command (.ok named))
    {answer : Except Fault Response} {world : Machine}
    (answered : scene.world.perform (queue.request waits named) = (answer, world)) :
    ∃ notices, (queue.submit Machine.driver waits command).perform scene =
      (match answer with
        | .error found => .error (.faulted found)
        | .ok response => .ok ⟨response.writes,
            (checkHandle response.status response.handle).map fun event => ⟨⟨event⟩⟩⟩,
        ⟨world, notices⟩) := by
  rw [Queue.request] at answered
  rw [Queue.submit, (Event.settles_handles listed).perform_bind, (settles_use held).perform_bind,
    naming.perform_bind, Action.perform_bind, Action.perform_call, Machine.driver, answered]
  cases answer with
  | error found => exact ⟨scene.notices, rfl⟩
  | ok response =>
    dsimp only
    cases checkHandle response.status response.handle with
    | error error => exact ⟨scene.notices, rfl⟩
    | ok event => exact ⟨_, rfl⟩

/-- Only queue and events have to be kept. -/
theorem Ready.kept {before after : Machine} {queue : Queue} {waits : List Event}
    (ready : Ready before queue waits) (serving : after.halted = false)
    (injection : after.injection = before.injection)
    (kept : ∀ id object, object.kind ≠ .memory → before.store.objects.find? id = some object →
      after.store.objects.find? id = some object) : Ready after queue waits := by
  constructor
  · exact serving
  · rw [injection]
    exact ready.allowed
  · obtain ⟨properties, found⟩ := ready.queued
    have present := kept _ _ ObjectKind.noConfusion (Store.queue_ok_iff.mp found)
    exact ⟨properties, Store.queue_ok_iff.mpr present⟩
  · intro wait waiting
    obtain ⟨stored, found⟩ := ready.listed wait waiting
    have present := kept _ _ ObjectKind.noConfusion (Store.event_ok_iff.mp found)
    exact ⟨stored, Store.event_ok_iff.mpr present⟩
  · exact ready.few

/-- A command leaves queue and wait-list as they were, and its event can be waited for. -/
theorem Ready.carried {before after : Machine} {queue : Queue} {waits later : List Event}
    {effect : Effect} {event : Event} (ready : Ready before queue waits)
    (carried : Carried before after effect event.owned.handle) (few : later.length < halfRange)
    (known : ∀ wait ∈ later, wait ∈ event :: waits) : Ready after queue later := by
  have still := ready.kept carried.serving carried.injection fun _ _ other found =>
    carried.find?_of_other found other
  refine ⟨still.serving, still.allowed, still.queued, ?_, few⟩
  intro wait waiting
  rcases List.mem_cons.mp (known wait waiting) with rfl | old
  · exact carried.recorded
  · exact still.listed wait old

namespace Ready
variable {scene : Scene Machine} {queue : Queue} {waits : List Event}
  {command : Action Machine Command} {named : Command}

/-- What the runtime answers to the command is handed on. -/
private theorem perform_submit (ready : Ready scene.world queue waits)
    (reachable : scene.world.Reachable) (naming : Settles command (.ok named)) {response : Response}
    {world : Machine}
    (answered : scene.world.perform (queue.request waits named) = (.ok response, world)) :
    ∃ notices, (queue.submit Machine.driver waits command).perform scene =
      (.ok ⟨response.writes, (checkHandle response.status response.handle).map fun event => ⟨⟨event⟩⟩⟩,
        ⟨world, notices⟩) := by
  obtain ⟨properties, found⟩ := ready.queued
  have held := reachable.ne_zero (Store.queue_ok_iff.mp found)
  refine Queue.perform_submit held (fun event waiting => ?_) naming answered
  obtain ⟨stored, present⟩ := ready.listed event waiting
  exact reachable.ne_zero (Store.event_ok_iff.mp present)

private theorem perform_request (ready : Ready scene.world queue waits) (named : Command)
    {properties : UInt64} (found : scene.world.store.queue queue.owned.handle = .ok properties) :
    scene.world.perform (queue.request waits named) =
      let handles := waits.map (·.owned.handle)
      let noted := { scene.world.counted (queue.request waits named) with lastWaits := handles }
      match scene.world.store.effect named with
      | .error refusal => noted.refused refusal
      | .ok effect =>
        let (id, store) := Machine.finishCommand (scene.world.store.apply effect) properties handles
        (.ok { handle := id, writes := effect.writes }, { noted with store := store }) := by
  have live : ∀ handle ∈ waits.map (·.owned.handle), ∃ event, scene.world.store.event handle = .ok event := by
    intro handle member
    obtain ⟨event, waiting, rfl⟩ := List.mem_map.mp member
    exact ready.listed event waiting
  have listed := Machine.waitList_of_live (Nat.lt_of_le_of_lt (Nat.le_of_eq (List.length_map _)) ready.few) live
  have served : scene.world.perform (queue.request waits named) =
      (scene.world.counted (queue.request waits named)).serve (queue.request waits named) :=
    Machine.perform_of_serving ready.serving (ready.allowed named.kind)
  rw [served]
  cases result : scene.world.store.effect named with
  | error refusal =>
    simp only [Queue.request, Machine.serve, Machine.enqueue, Machine.counted, found, listed, result]
  | ok effect =>
    simp only [Queue.request, Machine.serve, Machine.enqueue, Machine.counted, found, listed, result, if_true]

/-- A command that the store accepts comes back with its event and has been carried out. -/
theorem carries (ready : Ready scene.world queue waits) (reachable : scene.world.Reachable)
    (naming : Settles command (.ok named)) {effect : Effect}
    (accepted : scene.world.store.effect named = .ok effect) :
    ∃ event after, (queue.submit Machine.driver waits command).perform scene =
        (.ok ⟨effect.writes, .ok event⟩, after) ∧
      Carried scene.world after.world effect event.owned.handle := by
  obtain ⟨properties, found⟩ := ready.queued
  have performed := ready.perform_request named found
  obtain ⟨clock, queuedAt, finished⟩ := finishCommand_eq (scene.world.store.apply effect) properties
    (waits.map (·.owned.handle))
  simp only [accepted, finished] at performed
  obtain ⟨notices, submitted⟩ := ready.perform_submit reachable naming performed
  have next := handleOf_ne_zero ((scene.world.store.apply effect).made + 1)
  have handled := checkHandle_ok_iff.mpr ⟨⟨rfl, next⟩, rfl⟩
  simp only [Store.add, handled, Except.map] at submitted
  refine ⟨_, _, submitted, ?_⟩
  constructor
  · exact reachable.of_answered performed
  · exact ready.serving
  · rfl
  · have orderly := reachable.orderly.revised (Store.revision_apply accepted)
    exact ⟨_, Store.event_ok_iff.mpr (orderly.find?_add (.event (.command _ queuedAt)))⟩
  · exact ⟨_, _, rfl⟩

/-- A command that the store refuses comes back with the error, and nothing has changed. -/
theorem refuses (ready : Ready scene.world queue waits) (reachable : scene.world.Reachable)
    (naming : Settles command (.ok named)) {error : NativeError}
    (refused : scene.world.store.effect named = refuse error) :
    ∃ after, (queue.submit Machine.driver waits command).perform scene =
        (.ok ⟨[], .error (.native error)⟩, after) ∧
      after.world.store = scene.world.store := by
  obtain ⟨properties, found⟩ := ready.queued
  have performed := ready.perform_request named found
  simp only [refused, refuse, Machine.refused] at performed
  obtain ⟨notices, submitted⟩ := ready.perform_submit reachable naming performed
  have failed : checkHandle error.code 0 = .error (.native error) := by
    rw [checkHandle, ofStatus?_code]
  simp only [failed, Except.map] at submitted
  exact ⟨_, submitted, rfl⟩

/-- A command that stores nothing in host memory comes back with its event alone. -/
theorem carries_out (ready : Ready scene.world queue waits) (reachable : scene.world.Reachable)
    (naming : Settles command (.ok named)) {effect : Effect}
    (accepted : scene.world.store.effect named = .ok effect) :
    ∃ event after, (queue.enqueue Machine.driver waits command).perform scene = (.ok event, after) ∧
      Carried scene.world after.world effect event.owned.handle := by
  obtain ⟨event, after, submitted, carried⟩ := ready.carries reachable naming accepted
  refine ⟨event, after, ?_, carried⟩
  rw [Queue.enqueue, Action.perform_bind, submitted]
  rfl

/-- A command that changes a memory object has stored its data when it comes back. -/
theorem stores (ready : Ready scene.world queue waits) (reachable : scene.world.Reachable)
    (naming : Settles command (.ok named)) {effect : Effect}
    (accepted : scene.world.store.effect named = .ok effect) {target : Nat}
    {memory : Simulator.Memory} {data : Block} (changed : effect.change = some (target, data))
    (located : scene.world.store.memory target = .ok memory) {holds : Block → Prop}
    (held : holds data) :
    Stores (queue.enqueue Machine.driver waits command) scene target memory holds := by
  obtain ⟨event, after, performed, carried⟩ := ready.carries_out reachable naming accepted
  exact ⟨event, after, data, performed, carried.rewrites changed located, held⟩

theorem refused (ready : Ready scene.world queue waits) (reachable : scene.world.Reachable)
    (naming : Settles command (.ok named)) {error : NativeError}
    (refused : scene.world.store.effect named = refuse error) :
    Refused (queue.enqueue Machine.driver waits command) scene error := by
  obtain ⟨after, submitted, same⟩ := ready.refuses reachable naming refused
  refine ⟨after, ?_, same⟩
  rw [Queue.enqueue, Action.perform_bind, submitted]
  rfl

/-- A command that changes host memory only has replaced its pieces when it comes back. -/
theorem fetches (ready : Ready scene.world queue waits) (reachable : scene.world.Reachable)
    (naming : Settles command (.ok named)) {effect : Effect}
    (accepted : scene.world.store.effect named = .ok effect) (still : effect.change = none)
    {memory : Block} {holds : Block → Prop} (held : holds (memory.patch effect.writes)) :
    Fetches (queue.submit Machine.driver waits command >>= fun submission =>
      pure (submission.into memory)) scene holds := by
  obtain ⟨event, after, submitted, carried⟩ := ready.carries reachable naming accepted
  refine ⟨event, after, _, ?_, carried.extends_store still, held⟩
  rw [Action.perform_bind, submitted]
  rfl

theorem withholds (ready : Ready scene.world queue waits) (reachable : scene.world.Reachable)
    (naming : Settles command (.ok named)) {error : NativeError}
    (refused : scene.world.store.effect named = refuse error) (memory : Block) :
    Withholds (queue.submit Machine.driver waits command >>= fun submission =>
      pure (submission.into memory)) scene memory error := by
  obtain ⟨after, submitted, same⟩ := ready.refuses reachable naming refused
  refine ⟨after, ?_, same⟩
  rw [Action.perform_bind, submitted]
  rfl

end Ready
end Offload.Host

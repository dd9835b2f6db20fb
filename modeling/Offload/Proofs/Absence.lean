import Offload.Proofs.Dialogues
import Offload.Proofs.Handles

/-! A runtime from which a context, a queue, a program or a kernel is missing. Calls that are not
made on the missing object are answered as if it were there, and leave it missing: contexts,
queues, programs and kernels are only looked up when a call names them, and no object keeps a
handle of its parent. -/
namespace Offload.Simulator
open Session

/-- A store without one of its objects. -/
def Store.without (store : Store) (id : Nat) : Store := { store with objects := store.objects.erase id }

/-- A handle that has been given out and is neither that of a memory object nor of an event. -/
structure Store.Bystander (store : Store) (id : Nat) : Prop where
  issued : id ≤ handleOf store.made
  parent : ∀ object, store.objects.find? id = some object →
    object.kind ≠ .memory ∧ object.kind ≠ .event

namespace Table

private theorem erase_insert (table : Table) {id new : Nat} (object : Object) (differs : new ≠ id) :
    (table.insert new object).erase id = (table.erase id).insert new object := by
  simp only [erase, insert, List.filter_append]
  rw [List.filter_cons_of_pos (by simpa using differs), List.filter_nil]

private theorem erase_replace (table : Table) (id other : Nat) (object : Object) :
    (table.replace other object).erase id = (table.erase id).replace other object := by
  simp only [erase, replace, List.filter_map]
  congr 1
  refine List.filter_congr fun entry _ => ?_
  simp only [Function.comp_apply]
  split
  · rename_i same
    rw [same]
  · rfl

private theorem erase_erase (table : Table) (id other : Nat) :
    (table.erase other).erase id = (table.erase id).erase other := by
  simp only [erase, List.filter_filter]
  exact List.filter_congr fun entry _ => Bool.and_comm _ _

end Table

namespace Store.Bystander
variable {before after : Store} {id : Nat}

theorem revised (bystander : before.Bystander id) (revision : Revision before after) :
    after.Bystander id where
  issued := revision.made_eq ▸ bystander.issued
  parent object found := by
    cases revision with
    | unchanged => exact bystander.parent object found
    | revised present revises =>
      rcases Table.find?_replace_cases found with old | ⟨rfl, rfl⟩
      · exact bystander.parent object old
      · rw [revises.kind_eq]
        exact bystander.parent _ present

/-- No step gives the handle to something else. -/
theorem changed (bystander : before.Bystander id) (change : Change before after) :
    after.Bystander id := by
  induction change with
  | revised revision => exact bystander.revised revision
  | @added store object enters =>
    have issued := bystander.issued
    have next := handleOf_lt store.made
    refine ⟨Nat.le_trans issued (Nat.le_of_lt next), fun other found => ?_⟩
    rcases Table.find?_insert_cases found with old | ⟨same, _⟩
    · exact bystander.parent other old
    · omega
  | removed =>
    exact ⟨bystander.issued, fun other found => bystander.parent other (Table.of_find?_erase found)⟩
  | ticked => exact ⟨bystander.issued, bystander.parent⟩
  | composed _ _ early late => exact late (early bystander)

end Store.Bystander

namespace Store
variable {store : Store} {id : Nat}

section lookups
variable {other : Nat} (differs : other ≠ id)
include differs

theorem find?_without : (store.without id).objects.find? other = store.objects.find? other := by
  rw [without, Table.find?_erase, if_neg differs]

private theorem context_without : (store.without id).context other = store.context other := by
  rw [context, context, find?_without differs]

theorem queue_without : (store.without id).queue other = store.queue other := by
  rw [queue, queue, find?_without differs]

theorem program_without : (store.without id).program other = store.program other := by
  rw [Store.program, Store.program, find?_without differs]

theorem kernel_without : (store.without id).kernel other = store.kernel other := by
  rw [Store.kernel, Store.kernel, find?_without differs]

end lookups

theorem find?_missing : (store.without id).objects.find? id = none := by
  rw [without, Table.find?_erase, if_pos rfl]

section
variable (bystander : store.Bystander id)
include bystander

/-- Whatever is under the missing handle, it is no memory object. -/
theorem memory_without (other : Nat) : (store.without id).memory other = store.memory other := by
  by_cases same : other = id
  · subst same
    rw [Store.memory, Store.memory, find?_missing]
    cases found : store.objects.find? other with
    | none => rfl
    | some object =>
      cases object with
      | memory => exact ((bystander.parent _ found).1 rfl).elim
      | _ => rfl
  · rw [Store.memory, Store.memory, find?_without same]

theorem event_without (other : Nat) : (store.without id).event other = store.event other := by
  by_cases same : other = id
  · subst same
    rw [Store.event, Store.event, find?_missing]
    cases found : store.objects.find? other with
    | none => rfl
    | some object =>
      cases object with
      | event => exact ((bystander.parent _ found).2 rfl).elim
      | _ => rfl
  · rw [Store.event, Store.event, find?_without same]

/-- The status of an event rests on events only. -/
theorem statusOf_without (other : Nat) :
    (store.without id).objects.statusOf other = store.objects.statusOf other := by
  induction other using Nat.strongRecOn with
  | ind other ih =>
    have waits : ∀ list : List Nat,
        (list.findSome? fun wait =>
          if wait < other then imposed? ((store.without id).objects.statusOf wait) else none) =
        list.findSome? fun wait =>
          if wait < other then imposed? (store.objects.statusOf wait) else none := by
      intro list
      congr 1
      funext wait
      split
      · rw [ih wait ‹_›]
      · rfl
    rw [Table.statusOf, Table.statusOf]
    by_cases same : other = id
    · subst same
      rw [find?_missing]
      cases found : store.objects.find? other with
      | none => rfl
      | some object =>
        cases object with
        | event => exact ((bystander.parent _ found).2 rfl).elim
        | _ => rfl
    · simp only [find?_without same, waits]

theorem add_without (object : Object) :
    (store.without id).add object = ((store.add object).1, (store.add object).2.without id) := by
  have new : handleOf (store.made + 1) ≠ id := by
    have := bystander.issued
    have := handleOf_lt store.made
    omega
  simp only [add, without, Table.erase_insert _ _ new]

end

theorem replace_without (other : Nat) (object : Object) :
    (store.without id).replace other object = (store.replace other object).without id := by
  simp only [replace, without, Table.erase_replace]

theorem checkDevices_without (devices : List Nat) :
    (store.without id).checkDevices devices = store.checkDevices devices := rfl

section
variable (bystander : store.Bystander id)
include bystander

theorem checkEvents_without (error : NativeError) (events : List Nat) :
    (store.without id).checkEvents error events = store.checkEvents error events := by
  induction events with
  | nil => rfl
  | cons first rest ih => rw [checkEvents, checkEvents, event_without bystander, ih]

private theorem waitOutcome_without (events : List Nat) :
    (store.without id).waitOutcome events = store.waitOutcome events := by
  have statuses := List.map_congr_left fun (event : Nat) (_ : event ∈ events) =>
    statusOf_without bystander event
  rw [waitOutcome, waitOutcome, statuses]

private theorem bufferRange_without (buffer offset size : Nat) :
    (store.without id).bufferRange buffer offset size = store.bufferRange buffer offset size := by
  rw [bufferRange, bufferRange, memory_without bystander]

/-- A command looks up memory objects, and the kernel that it dispatches. -/
theorem effect_without {command : Command}
    (apart : ∀ kernel count offsets globals locals,
      command = .dispatch kernel count offsets globals locals → kernel ≠ id) :
    (store.without id).effect command = store.effect command := by
  cases command with
  | readBuffer => simp only [effect, readBuffer, bufferRange_without bystander]
  | writeBuffer => simp only [effect, writeBuffer, bufferRange_without bystander]
  | copyBuffer => simp only [effect, copyBuffer, bufferRange_without bystander]
  | fillBuffer => simp only [effect, fillBuffer, bufferRange_without bystander]
  | readImage => simp only [effect, readImage, memory_without bystander]
  | writeImage => simp only [effect, writeImage, memory_without bystander]
  | dispatch kernel count offsets globals locals =>
    have differs := apart kernel count offsets globals locals rfl
    simp only [effect, dispatch, kernel_without differs, runSquare, memory_without bystander]
  | barrier | marker => rfl

private theorem apply_without (effect : Effect) :
    (store.without id).apply effect = (store.apply effect).without id := by
  simp only [apply, memory_without bystander]
  split
  · rfl
  · split
    · exact replace_without _ _
    · rfl

private theorem setArgument_without {kernel : Nat} (differs : kernel ≠ id) (index size : Nat)
    (value : Option Bytes) :
    (store.without id).setArgument kernel index size value =
      (store.setArgument kernel index size value).map (·.without id) := by
  have bound : ∀ parameter, argumentBytes (store.without id) parameter size value =
      argumentBytes store parameter size value := by
    intro parameter
    simp only [argumentBytes, memory_without bystander]
  simp only [setArgument, kernel_without differs, bound]
  cases store.kernel kernel with
  | error refusal => rfl
  | ok found =>
    simp only [bind, Except.bind]
    split
    · rfl
    · split
      · rfl
      · rw [replace_without]
        rfl

private theorem settle_without (event : Nat) (status : Int) :
    (store.without id).settle event status = (store.settle event status).map (·.without id) := by
  simp only [settle, event_without bystander]
  split
  · rfl
  · rfl
  · split
    · rfl
    · split
      · rfl
      · rw [replace_without]
        rfl

private theorem information_without {query : InfoQuery} {parameter : Int} {window : Window}
    (apart : id ∉ principals (.info query parameter window)) :
    (store.without id).information query parameter = store.information query parameter := by
  cases query with
  | platform | device => rfl
  | build program device =>
    have differs : program ≠ id := fun same => apart (List.mem_singleton.mpr same.symm)
    simp only [information, program_without differs]
    rfl
  | kernel kernel =>
    have differs : kernel ≠ id := fun same => apart (List.mem_singleton.mpr same.symm)
    simp only [information, kernel_without differs]
  | workGroup kernel device =>
    have differs : kernel ≠ id := fun same => apart (List.mem_singleton.mpr same.symm)
    simp only [information, kernel_without differs]
    rfl
  | event event => simp only [information, event_without bystander, statusOf_without bystander]
  | profiling event => simp only [information, event_without bystander]

end

private theorem remove_without {other : Nat} (differs : other ≠ id) (kind : ObjectKind) :
    (store.without id).remove kind other = (store.remove kind other).map (·.without id) := by
  simp only [remove, find?_without differs]
  cases store.objects.find? other with
  | none => rfl
  | some object =>
    dsimp only
    split
    · simp only [without, Table.erase_erase, Except.map]
    · rfl

end Store

/-- The sort of a call once an object is missing. -/
def Service.without (id : Nat) : Service → Service
  | .update outcome => .update (outcome.map (·.without id))
  | other => other

/-- A call that is not made on the missing object is of the same sort. -/
theorem Store.service_without {store : Store} {id : Nat} (bystander : store.Bystander id)
    {request : Request} (apart : id ∉ principals request) :
    (store.without id).service request = (store.service request).without id := by
  have single : ∀ {other : Nat}, principals request = [other] → other ≠ id := by
    intro other alone same
    exact apart (alone ▸ List.mem_singleton.mpr same.symm)
  cases request with
  | platformIds | deviceIds | buildProgram | waitForEvents | enqueue => rfl
  | info => simp only [service, information_without bystander apart, Service.without]
  | imageFormats =>
    simp only [service, listFormats, context_without (single rfl), Service.without]
  | createContext devices =>
    simp only [service, newContext, checkDevices_without, Service.without]
  | createQueue => simp only [service, newQueue, context_without (single rfl), Service.without]
  | createBuffer => simp only [service, newBuffer, context_without (single rfl), Service.without]
  | createImage => simp only [service, newImage, context_without (single rfl), Service.without]
  | createProgram => simp only [service, newProgram, context_without (single rfl), Service.without]
  | createKernel => simp only [service, newKernel, program_without (single rfl), Service.without]
  | createUserEvent =>
    simp only [service, newUserEvent, context_without (single rfl), Service.without]
  | setKernelArg =>
    simp only [service, setArgument_without bystander (single rfl), Service.without]
  | setEventStatus => simp only [service, settle_without bystander, Service.without]
  | flush | finish => simp only [service, queue_without (single rfl), Service.without]
  | release => simp only [service, remove_without (single rfl), Service.without]

namespace Machine
variable {machine : Machine} {id : Nat} {calls : List Request}

/-- A machine without one of its objects, after other calls. -/
def without (machine : Machine) (id : Nat) (calls : List Request) : Machine :=
  { machine with store := machine.store.without id, calls := calls }

/-- An answer and the machine after it, without one of its objects and after other calls. -/
def answerWithout (id : Nat) (calls : List Request) (answered : Except Fault Response × Machine) :
    Except Fault Response × Machine := (answered.1, answered.2.without id calls)

theorem refused_without (refusal : Refusal) :
    (machine.without id calls).refused refusal = answerWithout id calls (machine.refused refusal) := by
  cases refusal <;> rfl

private theorem query_without (outcome : Except Refusal Response) :
    (machine.without id calls).query outcome = answerWithout id calls (machine.query outcome) := by
  cases outcome with
  | ok response => rfl
  | error refusal => exact refused_without refusal

private theorem update_without (outcome : Except Refusal Store) :
    (machine.without id calls).update (outcome.map (·.without id)) =
      answerWithout id calls (machine.update outcome) := by
  cases outcome with
  | ok store => rfl
  | error refusal => exact refused_without refusal

/-- The event of a command takes the next handle, whatever is missing. -/
theorem finishCommand_without {store : Store} (bystander : store.Bystander id) (properties : UInt64)
    (waits : List Nat) :
    finishCommand (store.without id) properties waits =
      ((finishCommand store properties waits).1, (finishCommand store properties waits).2.without id) := by
  unfold finishCommand
  split
  · exact @Store.add_without { store with clock := store.clock + 4 } id
      ⟨bystander.issued, bystander.parent⟩ _
  · exact Store.add_without bystander _

section
variable (bystander : machine.store.Bystander id)
include bystander

private theorem create_without (entry : EntryPoint) (outcome : Except Refusal Object) :
    (machine.without id calls).create entry outcome = answerWithout id calls (machine.create entry outcome) := by
  cases outcome with
  | error refusal => exact refused_without refusal
  | ok object =>
    simp only [create, without, Store.add_without bystander]
    cases machine.injection.nulls.contains entry <;> rfl

omit bystander in
private theorem build_without {program : Nat} (differs : program ≠ id) (devices : HandleList) :
    (machine.without id calls).build program devices = answerWithout id calls (machine.build program devices) := by
  have found : (machine.without id calls).store.program program = machine.store.program program :=
    Store.program_without differs
  simp only [build, found]
  split
  · exact refused_without _
  · split
    · rfl
    · split <;> simp only [without, Store.replace_without] <;> rfl

private theorem waitForEvents_without (list : HandleList) :
    (machine.without id calls).waitForEvents list = answerWithout id calls (machine.waitForEvents list) := by
  have checked : ∀ events, (machine.without id calls).store.checkEvents .invalidEvent events =
      machine.store.checkEvents .invalidEvent events :=
    Store.checkEvents_without bystander _
  have waited : ∀ events, (machine.without id calls).store.waitOutcome events =
      machine.store.waitOutcome events := Store.waitOutcome_without bystander
  simp only [waitForEvents, checked, waited]
  cases list.handles with
  | none => rfl
  | some handles =>
    dsimp only
    split
    · rfl
    · cases machine.store.checkEvents .invalidEvent (handles.take list.count) with
      | error refusal => exact refused_without refusal
      | ok =>
        cases machine.store.waitOutcome (handles.take list.count) with
        | error refusal =>
          exact @refused_without { machine with lastWaits := handles.take list.count } id calls refusal
        | ok => rfl

private theorem waitList_without (waits : HandleList) :
    waitList (machine.store.without id) waits = waitList machine.store waits := by
  simp only [waitList, Store.checkEvents_without bystander]

private theorem enqueue_without {queue : Nat} (differs : queue ≠ id) {command : Command}
    (apart : ∀ kernel count offsets globals locals,
      command = .dispatch kernel count offsets globals locals → kernel ≠ id)
    (waits : HandleList) (wantEvent : Bool) :
    (machine.without id calls).enqueue queue command waits wantEvent =
      answerWithout id calls (machine.enqueue queue command waits wantEvent) := by
  have found : (machine.without id calls).store.queue queue = machine.store.queue queue :=
    Store.queue_without differs
  have listed : waitList (machine.without id calls).store waits = waitList machine.store waits :=
    waitList_without bystander waits
  have carried : (machine.without id calls).store.effect command = machine.store.effect command :=
    Store.effect_without bystander apart
  simp only [enqueue, found, listed, carried]
  cases machine.store.queue queue with
  | error refusal => exact refused_without refusal
  | ok properties =>
    cases waitList machine.store waits with
    | error refusal => exact refused_without refusal
    | ok events =>
      cases accepted : machine.store.effect command with
      | error refusal => exact @refused_without { machine with lastWaits := events } id calls refusal
      | ok effect =>
        have applied : (machine.without id calls).store.apply effect = (machine.store.apply effect).without id :=
          Store.apply_without bystander effect
        have still := bystander.revised (Store.revision_apply accepted)
        simp only [applied, finishCommand_without still]
        rfl

end

/-- A call that is not made on the missing object is answered as if that were there, and what it
does is the same. -/
theorem perform_without (bystander : machine.store.Bystander id) {request : Request}
    (apart : id ∉ principals request) :
    perform request (machine.without id calls) =
      answerWithout id (request :: calls) (perform request machine) := by
  cases halted : machine.halted with
  | true =>
    have stopped : (machine.without id calls).halted = true := halted
    rw [perform_of_halted halted, perform_of_halted stopped]
    rfl
  | false =>
    have serving : (machine.without id calls).halted = false := halted
    cases allowed : machine.injection.failure? request.entry with
    | some status =>
      rw [perform_of_failure halted allowed, perform_of_failure serving allowed]
      rfl
    | none =>
      rw [perform_of_serving halted allowed, perform_of_serving serving allowed, serve_eq, serve_eq]
      have sort : ((machine.without id calls).counted request).store.service request =
          (machine.store.service request).without id := Store.service_without bystander apart
      have same : (machine.counted request).store = machine.store := rfl
      rw [sort, same]
      cases service : machine.store.service request with
      | query outcome => exact @query_without (machine.counted request) id (request :: calls) outcome
      | creation outcome => exact @create_without (machine.counted request) id (request :: calls) bystander _ outcome
      | update outcome => exact @update_without (machine.counted request) id (request :: calls) outcome
      | build program devices =>
        refine @build_without (machine.counted request) id (request :: calls) program ?_ devices
        cases request <;> cases service
        exact fun same => apart (List.mem_singleton.mpr same.symm)
      | wait list => exact @waitForEvents_without (machine.counted request) id (request :: calls) bystander list
      | enqueue queue command waits wantEvent =>
        refine @enqueue_without (machine.counted request) id (request :: calls) bystander queue ?_ command ?_
          waits wantEvent
        · cases request <;> cases service
          rintro rfl
          cases command <;> exact apart List.mem_cons_self
        · rintro kernel count offsets globals locals rfl rfl
          cases request <;> cases service
          exact apart (List.mem_cons_of_mem _ List.mem_cons_self)

end Machine
end Offload.Simulator

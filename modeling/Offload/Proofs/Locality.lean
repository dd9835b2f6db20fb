import Offload.Proofs.Buffers
import Offload.Proofs.FailedCalls
import Offload.Proofs.Inventory

/-! What a call can change. A call that is carried out alters at most one of the objects that were
there before, and the arguments say which one and what of it. -/
namespace Offload.Simulator

/-- How a call may change the object under a handle: a command new bytes, as many as before, a build
what the compiler says, the binding of an argument one place, and a decision a status. -/
inductive Alters (store : Store) : Request → Nat → Object → Object → Prop where
  | written {queue id : Nat} {command : Command} {waits : HandleList} {wantEvent : Bool}
      {memory : Memory} {data : Block} (written : store.Writes command id)
      (sized : data.size = memory.data.size) :
      Alters store (.enqueue queue command waits wantEvent) id (.memory memory)
        (.memory { memory with data := data })
  | built {id : Nat} {devices : HandleList} {options : Option String} {program : Program}
      (status : BuildStatus) (log : String) (kernels : List Signature) :
      Alters store (.buildProgram id devices options) id (.program program)
        (.program { program with status := status, log := log, kernels := kernels })
  | bound {id index size : Nat} {value : Option Bytes} {kernel : Kernel} (bytes : Bytes) :
      Alters store (.setKernelArg id index size value) id (.kernel kernel)
        (.kernel { kernel with arguments := kernel.arguments.set index (some bytes) })
  | decided {id : Nat} {earlier status : Int} :
      Alters store (.setEventStatus id status) id (.event (.user earlier)) (.event (.user status))

private theorem Alters.writes {store : Store} {queue id : Nat} {command : Command} {waits : HandleList}
    {wantEvent : Bool} {object later : Object}
    (alters : Alters store (.enqueue queue command waits wantEvent) id object later) :
    store.Writes command id := by
  cases alters with
  | written written => exact written

/-- The store after a call that was carried out: a release takes away the object that it names and
nothing else; any other call keeps all objects, but for what it alters, and adds one if it makes
one. -/
structure Local (before : Store) (request : Request) (after : Store) : Prop where
  released : ∀ kind id, request = .release kind id →
    after.objects = before.objects.erase id ∧
      ∃ object, before.objects.find? id = some object ∧ object.kind = kind
  kept : released? request = none → ∀ id object, before.objects.find? id = some object →
    ∃ later, after.objects.find? id = some later ∧ (later = object ∨ Alters before request id object later)
  added : released? request = none → after.objects.keys = before.objects.keys ++
    if (made? request).isSome then [handleOf (before.made + 1)] else []

/-- What stays of an object for as long as it lives. -/
inductive Endures : Object → Object → Prop where
  | context (devices : List Nat) : Endures (.context devices) (.context devices)
  | queue (properties : UInt64) : Endures (.queue properties) (.queue properties)
  | memory {memory later : Memory} (sized : later.data.size = memory.data.size)
      (shaped : later.shape? = memory.shape?) : Endures (.memory memory) (.memory later)
  | program {program later : Program} (sourced : later.source = program.source) :
      Endures (.program program) (.program later)
  | kernel {kernel later : Kernel} (signed : later.signature = kernel.signature) :
      Endures (.kernel kernel) (.kernel later)
  | user (status later : Int) : Endures (.event (.user status)) (.event (.user later))
  | command (waits : List Nat) (queuedAt : Option Nat) :
      Endures (.event (.command waits queuedAt)) (.event (.command waits queuedAt))

namespace Endures

private theorem refl (object : Object) : Endures object object := by
  cases object with
  | context devices => exact .context devices
  | queue properties => exact .queue properties
  | memory memory => exact .memory rfl rfl
  | program program => exact .program rfl
  | kernel kernel => exact .kernel rfl
  | event event =>
    cases event with
    | user status => exact .user status status
    | command waits queuedAt => exact .command waits queuedAt

private theorem revised {origin object revision : Object} (endures : Endures origin object)
    (revises : Revises object revision) : Endures origin revision := by
  cases revises with
  | memory size =>
    cases endures with
    | memory sized shaped => exact .memory (size.trans sized) shaped
  | compiled | rejected =>
    cases endures with
    | program sourced => exact .program sourced
  | kernel =>
    cases endures with
    | kernel signed => exact .kernel signed
  | event =>
    cases endures with
    | user => exact .user _ _

theorem of_descends {origin object : Object} (descends : Descends origin object) :
    Endures origin object := by
  induction descends with
  | same => exact refl origin
  | revised _ revises ih => exact ih.revised revises

end Endures

namespace Local
variable {before after : Store} {request : Request}

theorem of_same (objects : after.objects = before.objects) (makes : made? request = none)
    (keeps : released? request = none) : Local before request after where
  released kind id release := by
    subst release
    cases keeps
  kept _ id object found := ⟨object, objects ▸ found, Or.inl rfl⟩
  added _ := by
    rw [objects, makes]
    exact (List.append_nil _).symm

theorem of_replace {id : Nat} {object revision : Object} (found : before.objects.find? id = some object)
    (alters : Alters before request id object revision) (makes : made? request = none)
    (keeps : released? request = none) (replaced : after.objects = before.objects.replace id revision) :
    Local before request after where
  released kind id release := by
    subst release
    cases keeps
  kept _ other old present := by
    rw [replaced, Table.find?_replace]
    by_cases same : other = id
    · subst same
      cases found.symm.trans present
      rw [if_pos rfl, found]
      exact ⟨revision, rfl, Or.inr alters⟩
    · rw [if_neg same]
      exact ⟨old, present, Or.inl rfl⟩
  added _ := by
    rw [replaced, Table.keys_replace, makes]
    exact (List.append_nil _).symm

theorem of_insert {middle : Store} {object : Object}
    (kept : ∀ id old, before.objects.find? id = some old → ∃ later, middle.objects.find? id = some later ∧
      (later = old ∨ Alters before request id old later))
    (keys : middle.objects.keys = before.objects.keys) (makes : (made? request).isSome)
    (keeps : released? request = none)
    (inserted : after.objects = middle.objects.insert (handleOf (before.made + 1)) object) :
    Local before request after where
  released kind id release := by
    subst release
    cases keeps
  kept _ id old found := by
    obtain ⟨later, present, altered⟩ := kept id old found
    refine ⟨later, ?_, altered⟩
    rw [inserted]
    exact Table.find?_insert_of_found present
  added _ := by
    rw [inserted, Table.keys_insert, keys, makes]
    rfl

end Local

/-- Carrying out a command changes at most the bytes of the memory object that it names. -/
theorem Store.kept_of_effect {store : Store} {queue : Nat} {command : Command} {waits : HandleList}
    {wantEvent : Bool} {effect : Effect} (accepted : store.effect command = .ok effect) (id : Nat)
    (object : Object) (found : store.objects.find? id = some object) :
    ∃ later, (store.apply effect).objects.find? id = some later ∧
      (later = object ∨ Alters store (.enqueue queue command waits wantEvent) id object later) := by
  cases carries_effect accepted with
  | still writes => exact ⟨object, found, Or.inl rfl⟩
  | @changed target memory data written located sized =>
    simp only [Store.apply, located, Store.replace, Table.find?_replace]
    by_cases same : id = target
    · subst same
      cases (Store.memory_ok_iff.mp located).symm.trans found
      rw [if_pos rfl, found]
      exact ⟨_, rfl, Or.inr (.written written sized)⟩
    · rw [if_neg same]
      exact ⟨object, found, Or.inl rfl⟩

private theorem creates_of_service {store : Store} {request : Request} {outcome : Except Refusal Object}
    (service : store.service request = .creation outcome) : creates request.entry = true := by
  cases request <;> first | rfl | cases service

/-- An update alters the object that it names, or is a release. -/
private theorem Store.local_of_update {store after : Store} {request : Request}
    (service : store.service request = .update (.ok after)) : Local store request after := by
  cases request with
  | setKernelArg id index size value =>
    obtain ⟨kernel, bytes, found, rfl⟩ := setArgument_ok (Service.update.inj service)
    exact .of_replace found (.bound bytes) rfl rfl rfl
  | setEventStatus id status =>
    obtain ⟨found, _, rfl⟩ := settle_ok (Service.update.inj service)
    exact .of_replace found .decided rfl rfl rfl
  | release kind id =>
    obtain ⟨object, found, same, rfl⟩ := remove_ok (Service.update.inj service)
    constructor
    · rintro _ _ ⟨⟩
      exact ⟨rfl, object, found, same⟩
    · intro keeps
      cases keeps
    · intro keeps
      cases keeps
  | _ => cases service

/-- A call that is carried out changes what it names and nothing else. -/
theorem Outcome.local {machine after : Machine} {request : Request} {response : Response}
    (outcome : Outcome machine request (.ok response) after)
    (successful : ¬ Unsuccessful machine request response) :
    Local machine.store request after.store := by
  have sort := machine.store.makes_service request
  cases outcome with
  | injected _ failure => exact (successful (Or.inr (Or.inl (failure ▸ rfl)))).elim
  | refused _ _ _ _ _ failing => exact (successful (Or.inl failing)).elim
  | rejected => exact (successful (Or.inl (NativeError.code_ne_zero _))).elim
  | suppressed _ _ service null =>
    exact (successful (Or.inr (Or.inr ⟨creates_of_service service, null⟩))).elim
  | answered _ _ service =>
    have makes : made? request = none := by cases request <;> first | rfl | cases service
    have keeps : released? request = none := by cases request <;> first | rfl | cases service
    exact .of_same rfl makes keeps
  | waited _ _ _ service =>
    have makes : made? request = none := by cases request <;> first | rfl | cases service
    have keeps : released? request = none := by cases request <;> first | rfl | cases service
    exact .of_same rfl makes keeps
  | created _ _ service =>
    have keeps : released? request = none := by cases request <;> first | rfl | cases service
    rw [service] at sort
    exact .of_insert (fun _ object found => ⟨object, found, Or.inl rfl⟩) rfl sort.symm keeps rfl
  | updated _ _ service => exact Store.local_of_update service
  | compiled _ _ service found =>
    cases request with
    | buildProgram =>
      cases service
      exact .of_replace (Store.program_ok_iff.mp found) (.built _ _ _) rfl rfl rfl
    | _ => cases service
  | @queued _ _ _ _ properties events effect _ _ service _ _ accepted =>
    cases request with
    | enqueue =>
      cases service
      have carried := Store.revision_apply accepted
      obtain ⟨clock, queuedAt, finished⟩ :=
        finishCommand_eq (machine.store.apply effect) properties events
      have inserted : (Machine.finishCommand (machine.store.apply effect) properties events).2.objects =
          (machine.store.apply effect).objects.insert (handleOf (machine.store.made + 1))
            (.event (.command events queuedAt)) := by
        rw [finished, Store.add, carried.made_eq]
      exact .of_insert (Store.kept_of_effect accepted) carried.keys_eq rfl rfl inserted
    | _ => cases service

/-- Where an object comes from that is there after a step: it was there before, and a call has at most
altered it, or it is new and has the next handle. -/
inductive Origin (before : Store) (happening : Happening) (id : Nat) (object : Object) : Prop where
  | same (present : before.objects.find? id = some object)
  | altered {request : Request} {earlier : Object} (called : happening = .call request)
      (present : before.objects.find? id = some earlier) (alters : Alters before request id earlier object)
  | entered (next : id = handleOf (before.made + 1)) (enters : Enters before object)

theorem Origin.of_replace {before : Store} {request : Request} {target id : Nat}
    {object revision later : Object} (found : before.objects.find? target = some object)
    (alters : Alters before request target object revision)
    (present : (before.objects.replace target revision).find? id = some later) :
    Origin before (.call request) id later := by
  rcases Table.find?_replace_cases present with old | ⟨rfl, rfl⟩
  · exact .same old
  · exact .altered rfl found alters

private theorem Store.origin_of_update {store after : Store} {request : Request}
    (service : store.service request = .update (.ok after)) {id : Nat} {object : Object}
    (found : after.objects.find? id = some object) : Origin store (.call request) id object := by
  cases request with
  | setKernelArg =>
    obtain ⟨kernel, bytes, present, rfl⟩ := setArgument_ok (Service.update.inj service)
    exact .of_replace present (.bound bytes) found
  | setEventStatus =>
    obtain ⟨present, _, rfl⟩ := settle_ok (Service.update.inj service)
    exact .of_replace present .decided found
  | release =>
    obtain ⟨_, _, _, rfl⟩ := remove_ok (Service.update.inj service)
    exact .same (Table.of_find?_erase found)
  | _ => cases service

theorem Outcome.origin {machine after : Machine} {request : Request} {answer : Except Fault Response}
    (outcome : Outcome machine request answer after) {id : Nat} {object : Object}
    (found : after.store.objects.find? id = some object) :
    Origin machine.store (.call request) id object := by
  cases outcome with
  | halted | injected | refused | faulted | exhausted | answered | waited | suppressed => exact .same found
  | created _ _ service =>
    rcases Table.find?_insert_cases found with present | ⟨rfl, rfl⟩
    · exact .same present
    · exact .entered rfl (.made (Store.fresh_of_creation service))
  | updated _ _ service => exact Store.origin_of_update service found
  | compiled _ _ service present | rejected _ _ service present =>
    cases request with
    | buildProgram =>
      cases service
      exact .of_replace (Store.program_ok_iff.mp present) (.built _ _ _) found
    | _ => cases service
  | @queued _ _ _ _ properties events effect _ _ service _ listed accepted =>
    cases request with
    | enqueue =>
      cases service
      have carried := Store.revision_apply accepted
      obtain ⟨clock, queuedAt, finished⟩ :=
        finishCommand_eq (machine.store.apply effect) properties events
      dsimp only at found
      rw [finished] at found
      rcases Table.find?_insert_cases found with present | ⟨rfl, rfl⟩
      · cases Store.carries_effect accepted with
        | still => exact .same present
        | changed written located sized =>
          simp only [Store.apply, located] at present
          exact .of_replace (Store.memory_ok_iff.mp located) (.written written sized) present
      · refine .entered (by rw [carried.made_eq]) (.queued fun wait member => ?_)
        exact Machine.waitList_ok listed wait member
    | _ => cases service

/-- Whatever happens, every object that is there afterwards has its origin. -/
theorem Machine.origin_after (machine : Machine) (happening : Happening) {id : Nat} {object : Object}
    (found : (machine.after happening).store.objects.find? id = some object) :
    Origin machine.store happening id object := by
  cases happening with
  | call request => exact (outcome_perform machine request).origin found
  | fail | returnNull => exact .same found
  | allocateContext =>
    rcases Table.find?_insert_cases found with present | ⟨next, rfl⟩
    · exact .same present
    · exact .entered next (.made (.context _))

/-- In every state, a call that is carried out changes only what its arguments name: a release the
one object that it removes, any other call at most the object that it alters. A new object takes a
handle that is not in use, and whatever happens later, size, shape, source, signature, properties,
wait-list and ticks of an object stay as they are for as long as it lives. -/
theorem Machine.changes_only_named (machine : Machine) :
    (∀ request response after, machine.perform request = (.ok response, after) →
      ¬ Unsuccessful machine request response → Local machine.store request after.store) ∧
    (machine.Reachable →
      machine.store.objects.find? (handleOf (machine.store.made + 1)) = none ∧
      ∀ happenings id origin later, machine.store.objects.find? id = some origin →
        (machine.run happenings).store.objects.find? id = some later → Endures origin later) := by
  refine ⟨?_, fun reachable => ⟨reachable.orderly.find?_next, ?_⟩⟩
  · intro request response after performed successful
    have outcome := outcome_perform machine request
    rw [performed] at outcome
    exact outcome.local successful
  · intro happenings id origin later found present
    have issued := reachable.orderly.issued_of_find? found
    obtain ⟨earlier, original, descends⟩ :=
      (change_run machine happenings).descends reachable.orderly issued present
    cases found.symm.trans original
    exact .of_descends descends

/-- Filling a buffer adds the event of the command and leaves the image beside it as it is. -/
theorem image_kept_beside_fill :
    let fill : Request := .enqueue (handleOf 2) (.fillBuffer (handleOf 3) (some [7]) 1 0 4) ⟨0, none⟩ true
    let after := (Host.furnished.perform fill).2
    Local Host.furnished.store fill after.store ∧
      after.store.objects.find? (handleOf 4) = Host.furnished.store.objects.find? (handleOf 4) ∧
      after.store.objects.keys = Host.furnished.store.objects.keys ++ [handleOf 5] := by
  intro fill after
  have performed : Host.furnished.perform fill = (.ok { handle := handleOf 5 }, after) := rfl
  have successful : ¬ Unsuccessful Host.furnished fill { handle := handleOf 5 } := by
    rintro (failed | injected | ⟨creating, _⟩)
    · exact failed rfl
    · cases injected
    · cases creating
  have kept := (Machine.changes_only_named Host.furnished).1 fill _ after performed successful
  refine ⟨kept, ?_, kept.added rfl⟩
  have image : Host.furnished.store.objects.find? (handleOf 4) =
      some (.memory ⟨Block.zeros 4, some ⟨2, 2, 1⟩⟩) := rfl
  obtain ⟨later, present, same | alters⟩ := kept.kept rfl _ _ image
  · rw [present, image, same]
  · have written : Host.furnished.store.Writes (.fillBuffer (handleOf 3) (some [7]) 1 0 4) (handleOf 4) :=
      alters.writes
    generalize handled : handleOf 4 = id at written
    cases written
    cases handled

end Offload.Simulator

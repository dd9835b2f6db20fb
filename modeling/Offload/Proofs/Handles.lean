import Offload.Proofs.FailedCalls
import Offload.Proofs.Inventory

/-! How handles are given out. Objects are numbered in the order in which they are stored,
calls that store nothing leave no gap, and a handle whose object is gone names nothing ever
after, wherever it is still kept. -/
namespace Offload.Simulator

/-- The handles under which something was stored between two states. -/
def newKeys (before after : Store) : List Nat :=
  after.objects.keys.filter fun key => !before.objects.keys.contains key

/-- The handles under which a run stores objects, in the order in which it does. -/
def Machine.stored (machine : Machine) : List Happening → List Nat
  | [] => []
  | first :: rest =>
    newKeys machine.store (machine.after first).store ++ (machine.after first).stored rest

/-- A handle that names nothing: every lookup of it fails with the error of its kind. -/
structure Store.Dangling (store : Store) (id : Nat) : Prop where
  context : store.context id = refuse .invalidContext
  queue : store.queue id = refuse .invalidCommandQueue
  memory : store.memory id = refuse .invalidMemObject
  program : store.program id = refuse .invalidProgram
  kernel : store.kernel id = refuse .invalidKernel
  event : store.event id = refuse .invalidEvent
  removal : ∀ kind, store.remove kind id = refuse (invalid kind)

/-- What one step does to the handles in use: nothing, or it takes the next one, or it frees
one. -/
inductive Stride (before after : Store) : Prop where
  | kept (made : after.made = before.made) (keys : after.objects.keys = before.objects.keys)
  | stored (made : after.made = before.made + 1)
      (keys : after.objects.keys = before.objects.keys ++ [handleOf (before.made + 1)])
  | freed (id : Nat) (made : after.made = before.made)
      (keys : after.objects.keys = before.objects.keys.filter (· != id))

theorem Table.find?_eq_none_iff {table : Table} {id : Nat} :
    table.find? id = none ↔ id ∉ table.keys := by
  constructor
  · intro absent member
    induction table with
    | nil => cases member
    | cons entry rest ih =>
      rw [find?] at absent
      split at absent
      · cases absent
      · rename_i differs
        rcases List.mem_cons.mp member with same | later
        · exact differs same.symm
        · exact ih absent later
  · intro unused
    cases found : table.find? id with
    | none => rfl
    | some object => exact (unused (mem_keys_of_find? found)).elim

private theorem Store.dangling_of_unused {store : Store} {id : Nat} (unused : id ∉ store.objects.keys) :
    store.Dangling id := by
  have absent := Table.find?_eq_none_iff.mpr unused
  constructor <;>
    simp only [context, queue, Store.memory, Store.program, Store.kernel, Store.event, remove, absent,
      invalid, implies_true]

theorem Revision.keys_eq {store after : Store} (revision : Revision store after) :
    after.objects.keys = store.objects.keys := by
  cases revision with
  | unchanged => rfl
  | revised => exact Table.keys_replace _ _ _

private theorem Revision.stride {store after : Store} (revision : Revision store after) : Stride store after :=
  .kept revision.made_eq revision.keys_eq

theorem stride_add (store : Store) (object : Object) : Stride store (store.add object).2 :=
  .stored rfl (Table.keys_insert store.objects _ object)

/-- Storing the event of a finished command takes the next handle. -/
theorem stride_finishCommand {store carried : Store} (revision : Revision store carried)
    (properties : UInt64) (waits : List Nat) :
    Stride store (Machine.finishCommand carried properties waits).2 := by
  obtain ⟨clock, queuedAt, finished⟩ := finishCommand_eq carried properties waits
  have next : (Machine.finishCommand carried properties waits).2.objects.keys =
      carried.objects.keys ++ [handleOf (carried.made + 1)] := by
    rw [finished]
    exact Table.keys_insert carried.objects _ _
  refine .stored ?_ ?_
  · rw [finished, ← revision.made_eq]
    rfl
  · rw [next, revision.keys_eq, revision.made_eq]

theorem Outcome.stride {machine after : Machine} {request : Request}
    {answer : Except Fault Response} (outcome : Outcome machine request answer after) :
    Stride machine.store after.store := by
  cases outcome with
  | halted | injected | refused | faulted | exhausted | answered | waited | suppressed => exact .kept rfl rfl
  | created => exact stride_add _ _
  | updated _ _ service =>
    rcases Store.update_ok service with ⟨_, revision⟩ | ⟨_, id, _, _, _, _, rfl⟩
    · exact revision.stride
    · exact .freed id rfl (Table.keys_erase _ id)
  | compiled _ _ _ found =>
    exact (Revision.revised (Store.program_ok_iff.mp found) (.compiled _)).stride
  | rejected _ _ _ found =>
    exact (Revision.revised (Store.program_ok_iff.mp found) (.rejected _)).stride
  | queued _ _ _ _ _ accepted => exact stride_finishCommand (Store.revision_apply accepted) _ _

/-- A call that is not successful takes no handle. -/
theorem Outcome.made_eq {machine after : Machine} {request : Request}
    {answer : Except Fault Response} (outcome : Outcome machine request answer after)
    (unsuccessful : ∀ response, answer = .ok response → Unsuccessful machine request response) :
    after.store.made = machine.store.made := by
  cases outcome with
  | halted | injected | refused | faulted | exhausted | answered | waited | suppressed => rfl
  | updated _ _ service =>
    rcases Store.update_ok service with ⟨_, revision⟩ | ⟨_, _, _, _, _, _, rfl⟩
    · exact revision.made_eq
    · rfl
  | compiled | rejected => rfl
  | created _ allowed _ stored =>
    rcases unsuccessful _ rfl with failed | injected | ⟨_, suppressed⟩
    · exact (failed rfl).elim
    · rw [allowed] at injected
      cases injected
    · rw [stored] at suppressed
      cases suppressed
  | queued _ allowed service =>
    rcases unsuccessful _ rfl with failed | injected | ⟨creating, _⟩
    · exact (failed rfl).elim
    · rw [allowed] at injected
      cases injected
    · obtain ⟨_, creation⟩ := service_of_creates machine.store creating
      cases service.symm.trans creation

/-- A making call that answers with an object has stored it under the next handle. -/
theorem Outcome.handle_eq {machine after : Machine} {request : Request} {response : Response}
    (outcome : Outcome machine request (.ok response) after) (makes : (made? request).isSome)
    (handled : response.handle ≠ 0) :
    response.handle = handleOf (machine.store.made + 1) ∧
      after.store.made = machine.store.made + 1 := by
  rw [← machine.store.makes_service request] at makes
  cases outcome with
  | injected | refused | waited | updated | compiled | rejected | suppressed => cases handled rfl
  | answered _ _ service =>
    rw [service] at makes
    cases makes
  | created => exact ⟨rfl, rfl⟩
  | @queued _ _ _ wantEvent properties events effect _ _ _ _ _ accepted =>
    have carried := Store.revision_apply accepted
    obtain ⟨_, _, finished⟩ := finishCommand_eq (machine.store.apply effect) properties events
    dsimp only at handled ⊢
    rw [finished] at handled ⊢
    cases wantEvent with
    | false => cases handled rfl
    | true => exact ⟨carried.made_eq ▸ rfl, carried.made_eq ▸ rfl⟩

namespace Stride
variable {before after : Store}

theorem made_le (stride : Stride before after) : before.made ≤ after.made := by
  cases stride <;> omega

/-- What a step stores has the handles that the counter has moved over. -/
theorem newKeys_eq (stride : Stride before after) (orderly : Orderly before) :
    newKeys before after =
      (List.range' (before.made + 1) (after.made - before.made)).map handleOf := by
  have old : ∀ keys : List Nat, (∀ key ∈ keys, key ∈ before.objects.keys) →
      keys.filter (fun key => !before.objects.keys.contains key) = [] := by
    intro keys known
    refine List.filter_eq_nil_iff.mpr fun key member => ?_
    simpa using known key member
  cases stride with
  | kept made keys =>
    rw [newKeys, keys, old _ fun _ member => member, made, Nat.sub_self]
    rfl
  | freed id made keys =>
    rw [newKeys, keys, old _ fun _ member => (List.mem_filter.mp member).1, made, Nat.sub_self]
    rfl
  | stored made keys =>
    have unused : handleOf (before.made + 1) ∉ before.objects.keys := by
      intro used
      have := orderly.issued _ used
      have := handleOf_lt before.made
      omega
    rw [newKeys, keys, List.filter_append, old _ fun _ member => member, made, Nat.add_sub_cancel_left]
    simp only [List.nil_append, List.range'_one, List.map_cons, List.map_nil, List.filter_eq_self,
      List.mem_singleton, forall_eq]
    simpa using unused

end Stride

namespace Machine

theorem stride_after (machine : Machine) (happening : Happening) :
    Stride machine.store (machine.after happening).store := by
  cases happening with
  | call request => exact (outcome_perform machine request).stride
  | fail | returnNull => exact .kept rfl rfl
  | allocateContext => exact stride_add _ _

theorem orderly_after {machine : Machine} (orderly : Orderly machine.store) (happening : Happening) :
    Orderly (machine.after happening).store :=
  orderly.changed (change_run machine [happening])

/-- A run stores objects under the handles that follow each other, without a gap. -/
theorem stored_eq {machine : Machine} (orderly : Orderly machine.store)
    (happenings : List Happening) :
    machine.stored happenings = (List.range' (machine.store.made + 1)
      ((machine.run happenings).store.made - machine.store.made)).map handleOf := by
  induction happenings generalizing machine with
  | nil =>
    rw [run, List.foldl_nil, Nat.sub_self]
    rfl
  | cons first rest ih =>
    have stride := machine.stride_after first
    have near := stride.made_le
    have far := (change_run (machine.after first) rest).made_le
    rw [stored, stride.newKeys_eq orderly, ih (orderly_after orderly first), ← List.map_append,
      show (machine.after first).store.made + 1 = machine.store.made + 1 +
        ((machine.after first).store.made - machine.store.made) by omega, List.range'_append_1]
    congr 2
    show _ = ((machine.after first).run rest).store.made - machine.store.made
    omega

/-- What is in use was in use before or has been stored since. -/
theorem mem_stored (machine : Machine) (happenings : List Happening) {key : Nat}
    (used : key ∈ (machine.run happenings).store.objects.keys) :
    key ∈ machine.store.objects.keys ∨ key ∈ machine.stored happenings := by
  induction happenings generalizing machine with
  | nil => exact Or.inl used
  | cons first rest ih =>
    rw [stored, List.mem_append]
    rcases ih (machine.after first) used with early | late
    · by_cases old : key ∈ machine.store.objects.keys
      · exact Or.inl old
      · exact Or.inr (Or.inl (List.mem_filter.mpr ⟨early, by simpa using old⟩))
    · exact Or.inr (Or.inr late)

/-- A handle that was given out and is not in use never is again. -/
theorem unused_run {machine : Machine} (orderly : Orderly machine.store) {id : Nat}
    (issued : id ≤ handleOf machine.store.made) (unused : id ∉ machine.store.objects.keys)
    (happenings : List Happening) : id ∉ (machine.run happenings).store.objects.keys := by
  rw [← Table.find?_eq_none_iff] at unused ⊢
  cases found : (machine.run happenings).store.objects.find? id with
  | none => rfl
  | some object =>
    obtain ⟨_, present, _⟩ := (change_run machine happenings).descends orderly issued found
    cases unused.symm.trans present

theorem stored_ofTopology (platforms devices : Nat) (happenings : List Happening) :
    (ofTopology platforms devices).stored happenings =
      (List.range' 1 ((ofTopology platforms devices).run happenings).store.made).map handleOf :=
  stored_eq (Orderly.initial platforms devices) happenings

/-- The objects of a reachable machine are numbered from one. -/
theorem Reachable.exists_number {machine : Machine} (reachable : machine.Reachable) {key : Nat}
    (used : key ∈ machine.store.objects.keys) :
    ∃ number, 0 < number ∧ number ≤ machine.store.made ∧ key = handleOf number := by
  obtain ⟨platforms, devices, happenings, rfl⟩ := reachable
  rcases mem_stored _ happenings used with impossible | stored
  · cases impossible
  · rw [stored_ofTopology] at stored
    obtain ⟨number, member, rfl⟩ := List.mem_map.mp stored
    have bounds := List.mem_range'_1.mp member
    exact ⟨number, by omega, by omega, rfl⟩

/-- No object has the null handle. -/
theorem Reachable.ne_zero {machine : Machine} (reachable : machine.Reachable) {id : Nat}
    {object : Object} (found : machine.store.objects.find? id = some object) : id ≠ 0 := by
  obtain ⟨number, _, _, rfl⟩ := reachable.exists_number (Table.mem_keys_of_find? found)
  exact handleOf_ne_zero number

end Machine

private theorem argumentNumber_eq {arguments : List (Option Bytes)} {index width number : Nat}
    {bytes : Bytes} (bound : arguments[index]? = some (some bytes))
    (accepted : argumentNumber arguments index width = .ok number) :
    number = LittleEndian.toNat bytes := by
  rw [argumentNumber, bound] at accepted
  dsimp only [Option.getD_some] at accepted
  split at accepted
  · exact (Except.ok.inj accepted).symm
  · cases accepted

/-- Squaring is refused when the source or the target is gone. -/
theorem Store.runSquare_dangling {store : Store} {kernel : Kernel} {items index : Nat} {bytes : Bytes}
    {effect : Effect} (memoryArgument : index < 2)
    (bound : kernel.arguments[index]? = some (some bytes))
    (dangling : store.Dangling (LittleEndian.toNat bytes)) :
    store.runSquare kernel items ≠ .ok effect := by
  intro accepted
  obtain ⟨source, _, target, _, _, sourced, read, targeted, written, _⟩ := runSquare_ok accepted
  match index, memoryArgument with
  | 0, _ =>
    rw [argumentNumber_eq bound sourced, dangling.memory] at read
    cases read
  | 1, _ =>
    rw [argumentNumber_eq bound targeted, dangling.memory] at written
    cases written

/-- A dispatch of a `square` kernel through a handle that names nothing changes nothing. -/
theorem Machine.dispatch_dangling {machine : Machine} {id index : Nat} {kernel : Kernel} {bytes : Bytes}
    (found : machine.store.objects.find? id = some (.kernel kernel))
    (squares : kernel.signature.name = "square") (memoryArgument : index < 2)
    (bound : kernel.arguments[index]? = some (some bytes))
    (dangling : machine.store.Dangling (LittleEndian.toNat bytes)) (queue dimensions : Nat)
    (offsets globals locals : Option (List Nat)) (waits : HandleList) (wantEvent : Bool) :
    (machine.perform
      (.enqueue queue (.dispatch id dimensions offsets globals locals) waits wantEvent)).2.store =
        machine.store := by
  have outcome := outcome_perform machine
    (.enqueue queue (.dispatch id dimensions offsets globals locals) waits wantEvent)
  generalize (machine.perform _).1 = answer at outcome
  generalize (machine.perform _).2 = after at outcome ⊢
  cases outcome with
  | halted | injected | refused | faulted | exhausted | answered | waited | suppressed => rfl
  | created _ _ service | updated _ _ service | compiled _ _ service | rejected _ _ service =>
    cases service
  | queued _ _ service _ _ accepted =>
    cases service
    obtain ⟨_, located, ⟨_, _, squared⟩ | ⟨other, _⟩⟩ := Store.dispatch_ok accepted
    · cases found.symm.trans (Store.kernel_ok_iff.mp located)
      exact (Store.runSquare_dangling memoryArgument bound dangling squared).elim
    · cases found.symm.trans (Store.kernel_ok_iff.mp located)
      exact (other squares).elim

/-- The first object that is stored has number one, and so on without a gap: a call that is not
successful takes no number, a call that answers with an object has given it the next one. Once
an object is gone its handle names nothing, whatever happens and wherever it is still kept. -/
theorem handles_fresh (platforms devices : Nat) (happenings : List Happening) :
    let start := Machine.ofTopology platforms devices
    let machine := start.run happenings
    start.stored happenings =
      (List.range' 1 machine.store.made).map (fun number => 0x10000000 + 16 * number) ∧
    (start.stored happenings).Nodup ∧
    (∀ key ∈ machine.store.objects.keys, key ∈ start.stored happenings) ∧
    (∀ request, (∀ response, (machine.perform request).1 = .ok response →
        Unsuccessful machine request response) → machine.stored [.call request] = []) ∧
    (∀ request response, (machine.perform request).1 = .ok response → (made? request).isSome →
      response.handle ≠ 0 → machine.stored [.call request] = [response.handle]) ∧
    ∀ id ∈ start.stored happenings, id ∉ machine.store.objects.keys → ∀ later,
      let after := machine.run later
      id ∉ after.store.objects.keys ∧ after.store.Dangling id ∧
      ∀ kernel square index bytes, after.store.objects.find? kernel = some (.kernel square) →
        square.signature.name = "square" → index < 2 →
        square.arguments[index]? = some (some bytes) → LittleEndian.toNat bytes = id →
        ∀ queue dimensions offsets globals locals waits wantEvent,
          (after.perform (.enqueue queue (.dispatch kernel dimensions offsets globals locals)
            waits wantEvent)).2.store = after.store := by
  intro start machine
  have reachable : machine.Reachable := ⟨platforms, devices, happenings, rfl⟩
  have orderly := reachable.orderly
  have listed : start.stored happenings = (List.range' 1 machine.store.made).map handleOf :=
    Machine.stored_ofTopology platforms devices happenings
  refine ⟨listed, ?_, ?_, ?_, ?_, ?_⟩
  · rw [listed]
    refine List.Pairwise.map _ ?_ (List.nodup_range' 1)
    intro first second differ same
    simp only [handleOf] at same
    omega
  · intro key used
    rcases Machine.mem_stored start happenings used with impossible | stored
    · cases impossible
    · exact stored
  · intro request unsuccessful
    have made := (outcome_perform machine request).made_eq unsuccessful
    rw [Machine.stored_eq orderly, Machine.run, List.foldl_cons, List.foldl_nil, Machine.after, made,
      Nat.sub_self]
    rfl
  · intro request response answered makes handled
    have outcome := outcome_perform machine request
    rw [answered] at outcome
    obtain ⟨handle, made⟩ := outcome.handle_eq makes handled
    rw [Machine.stored_eq orderly, Machine.run, List.foldl_cons, List.foldl_nil, Machine.after, made,
      Nat.add_sub_cancel_left, handle]
    rfl
  · intro id stored unused later after
    rw [listed] at stored
    obtain ⟨number, member, rfl⟩ := List.mem_map.mp stored
    have bounds := List.mem_range'_1.mp member
    have issued : handleOf number ≤ handleOf machine.store.made := by
      simp only [handleOf]
      omega
    have gone := Machine.unused_run orderly issued unused later
    refine ⟨gone, Store.dangling_of_unused gone, ?_⟩
    intro kernel square index bytes found squares memoryArgument bound names
    exact Machine.dispatch_dangling found squares memoryArgument bound
      (names ▸ Store.dangling_of_unused gone)

/-- A buffer is given back while a kernel argument still holds its handle. -/
def releasedArgument : List Happening := [
  .call (.createContext ⟨1, some [deviceId 0 0]⟩),
  .call (.createQueue (handleOf 1) (deviceId 0 0) 0),
  .call (.createBuffer (handleOf 1) 0 4 none),
  .call (.createBuffer (handleOf 1) 0 0 none),
  .call (.createProgram (handleOf 1) 1
    (some [some "__kernel void square(global int*a,global int*b,int n)\x7b\x7d"]) false),
  .call (.buildProgram (handleOf 4) ⟨0, none⟩ none),
  .call (.createKernel (handleOf 4) (some "square")),
  .call (.setKernelArg (handleOf 5) 0 8 (some (LittleEndian.ofNat 8 (handleOf 3)))),
  .call (.release .memory (handleOf 3))]

private theorem releasedArgument_ends :
    let machine := (Machine.ofTopology 1 1).run releasedArgument
    machine.store.made = 5 ∧
      machine.store.objects.keys = [handleOf 1, handleOf 2, handleOf 4, handleOf 5] ∧
      machine.store.objects.find? (handleOf 5) = some (.kernel
        ⟨⟨"square", [.pointer, .pointer, .scalar 4]⟩,
          [some (LittleEndian.ofNat 8 (handleOf 3)), none, none]⟩) := by
  decide +kernel

/-- The buffer without bytes has taken no number, and the argument is of no use any more. -/
theorem handles_of_releasedArgument :
    (Machine.ofTopology 1 1).stored releasedArgument =
        [handleOf 1, handleOf 2, handleOf 3, handleOf 4, handleOf 5] ∧
      ((Machine.ofTopology 1 1).run releasedArgument).store.Dangling (handleOf 3) ∧
      ∀ queue dimensions offsets globals locals waits wantEvent,
        (((Machine.ofTopology 1 1).run releasedArgument).perform
          (.enqueue queue (.dispatch (handleOf 5) dimensions offsets globals locals) waits
            wantEvent)).2.store = ((Machine.ofTopology 1 1).run releasedArgument).store := by
  obtain ⟨made, used, found⟩ := releasedArgument_ends
  obtain ⟨listed, _, _, _, _, dead⟩ := handles_fresh 1 1 releasedArgument
  rw [made] at listed
  have issued : handleOf 3 ∈ (Machine.ofTopology 1 1).stored releasedArgument := by
    rw [listed]
    decide
  have unused : handleOf 3 ∉ ((Machine.ofTopology 1 1).run releasedArgument).store.objects.keys := by
    rw [used]
    decide
  obtain ⟨_, dangling, unchanged⟩ := dead (handleOf 3) issued unused []
  exact ⟨listed, dangling, unchanged (handleOf 5) _ 0 _ found rfl Nat.two_pos rfl (by decide)⟩

end Offload.Simulator

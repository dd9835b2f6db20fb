import Offload.Proofs.Service

/-! How the store changes from call to call: objects are revised in place, stored under the
next handle, or removed. An object never changes its kind, a memory object never its size,
and of an event only the status that is still open. -/
namespace Offload.Simulator

/-- How an object may be revised. -/
inductive Revises : Object → Object → Prop where
  | memory {memory : Memory} {data : Block} (sized : data.size = memory.data.size) :
      Revises (.memory memory) (.memory { memory with data := data })
  | compiled (program : Program) : Revises (.program program) (.program program.compiled)
  | rejected (program : Program) : Revises (.program program) (.program program.rejected)
  | kernel {kernel : Kernel} (index : Nat) (bytes : Bytes) :
      Revises (.kernel kernel)
        (.kernel { kernel with arguments := kernel.arguments.set index (some bytes) })
  | event {status : Int} (decided : status ≤ 0) :
      Revises (.event (.user ExecutionStatus.submittedCode)) (.event (.user status))

/-- At most one object of a store is revised. -/
inductive Revision (store : Store) : Store → Prop where
  | unchanged : Revision store store
  | revised {id : Nat} {object revision : Object} (found : store.objects.find? id = some object)
      (revises : Revises object revision) : Revision store (store.replace id revision)

/-- What a creating call makes. -/
inductive Fresh : EntryPoint → Object → Prop where
  | context (devices : List Nat) : Fresh .createContext (.context devices)
  | queue {properties : UInt64} (known : properties &&& ~~~knownQueueProperties = 0) :
      Fresh .createQueue (.queue properties)
  | buffer {data : Block} (filled : 0 < data.size) (fits : data.size ≤ memoryLimit) :
      Fresh .createBuffer (.memory { data := data })
  | image {data : Block} {shape : ImageShape} (wide : 0 < shape.width) (high : 0 < shape.height)
      (sized : data.size = shape.width * shape.height * shape.pixel) (fits : data.size ≤ memoryLimit) :
      Fresh .createImage (.memory { data := data, shape? := some shape })
  | program {source : String} (fits : source.utf8ByteSize ≤ memoryLimit) :
      Fresh .createProgram (.program { source := source })
  | kernel (signature : Signature) :
      Fresh .createKernel (.kernel ⟨signature, List.replicate signature.parameters.length none⟩)
  | event : Fresh .createUserEvent (.event (.user ExecutionStatus.submittedCode))

/-- What is stored as a new object: what a creating call makes, or the event of a command that
waits for events that exist. -/
inductive Enters (store : Store) : Object → Prop where
  | made {entry : EntryPoint} {object : Object} (fresh : Fresh entry object) : Enters store object
  | queued {waits : List Nat} {queuedAt : Option Nat}
      (anchored : ∀ wait ∈ waits, (store.objects.find? wait).isSome) :
      Enters store (.event (.command waits queuedAt))

/-- What calls do to the store. -/
inductive Change : Store → Store → Prop where
  | revised {store after : Store} (revision : Revision store after) : Change store after
  | added {store : Store} {object : Object} (enters : Enters store object) :
      Change store (store.add object).2
  | removed {store : Store} {id : Nat} {object : Object}
      (found : store.objects.find? id = some object) :
      Change store { store with objects := store.objects.erase id }
  | ticked (store : Store) (clock : Nat) : Change store { store with clock := clock }
  | composed {first second third : Store} (early : Change first second)
      (late : Change second third) : Change first third

theorem Revises.kind_eq {object revision : Object} (revises : Revises object revision) :
    revision.kind = object.kind := by
  cases revises <;> rfl

/-- A command that enters waits for events that exist. -/
theorem Enters.anchored {store : Store} {waits : List Nat} {queuedAt : Option Nat}
    (enters : Enters store (.event (.command waits queuedAt))) :
    ∀ wait ∈ waits, (store.objects.find? wait).isSome := by
  generalize same : Object.event (.command waits queuedAt) = object at enters
  cases enters with
  | made fresh => cases fresh <;> cases same
  | queued anchored =>
    cases same
    exact anchored

namespace Store
variable {store : Store}

/-- A context that was accepted has the devices that were listed, as many as were counted. -/
theorem newContext_ok {devices : HandleList} {object : Object}
    (accepted : store.newContext devices = .ok object) :
    ∃ handles, devices.handles = some handles ∧ object = .context (handles.take devices.count) := by
  unfold newContext at accepted
  split at accepted
  · cases accepted
  · rename_i handles listed
    split at accepted
    · cases accepted
    · dsimp only at accepted
      split at accepted
      · cases accepted
        exact ⟨handles, listed, rfl⟩
      · cases accepted

/-- A queue that was accepted is for a device of its context and has known properties only. -/
theorem newQueue_ok {context device : Nat} {properties : UInt64} {object : Object}
    (accepted : store.newQueue context device properties = .ok object) :
    ∃ devices, store.context context = .ok devices ∧ device ∈ devices ∧
      properties &&& ~~~knownQueueProperties = 0 ∧ object = .queue properties := by
  obtain ⟨devices, found, located⟩ := exists_of_bind_ok accepted
  obtain ⟨_, owned, checked⟩ := exists_of_bind_ok located
  obtain ⟨_, known, made⟩ := exists_of_bind_ok checked
  have member : device ∈ devices := List.contains_iff_mem.mp (require_ok_iff.mp owned)
  cases made
  exact ⟨devices, found, member, beq_iff_eq.mp (require_ok_iff.mp known), rfl⟩

/-- A buffer that was accepted has as many bytes as were asked for, which are not too many. -/
theorem newBuffer_ok {context size : Nat} {flags : UInt64} {host : Option Block} {object : Object}
    (accepted : store.newBuffer context flags size host = .ok object) :
    0 < size ∧ size ≤ memoryLimit ∧ ∃ data, data.size = size ∧ object = .memory { data := data } := by
  obtain ⟨_, _, located⟩ := exists_of_bind_ok accepted
  obtain ⟨_, _, checked⟩ := exists_of_bind_ok located
  obtain ⟨_, sized, asked⟩ := exists_of_bind_ok checked
  obtain ⟨_, fits, made⟩ := exists_of_bind_ok asked
  have filled : 0 < size := Nat.pos_of_ne_zero (bne_iff_ne.mp (require_ok_iff.mp sized))
  refine ⟨filled, reserve_ok_iff.mp fits, ?_⟩
  cases made
  cases host with
  | none => exact ⟨_, rfl, rfl⟩
  | some host => exact ⟨_, rfl, rfl⟩

/-- Joining the parts of a source has found room for all of them. -/
theorem joinParts_fits {joined source : String} {parts : List (Option String)}
    (accepted : joinParts joined parts = .ok source) (fits : joined.utf8ByteSize ≤ memoryLimit) :
    source.utf8ByteSize ≤ memoryLimit := by
  induction parts generalizing joined with
  | nil =>
    cases accepted
    exact fits
  | cons first rest ih =>
    cases first with
    | none => cases accepted
    | some part =>
      obtain ⟨_, room, further⟩ := exists_of_bind_ok accepted
      exact ih further (reserve_ok_iff.mp room)

theorem newProgram_ok {context count : Nat} {sources : Option (List (Option String))}
    {lengths : Bool} {object : Object}
    (accepted : store.newProgram context count sources lengths = .ok object) :
    ∃ source, source.utf8ByteSize ≤ memoryLimit ∧ object = .program { source := source } := by
  obtain ⟨_, _, located⟩ := exists_of_bind_ok accepted
  cases sources with
  | none => cases located
  | some parts =>
    obtain ⟨_, _, counted⟩ := exists_of_bind_ok located
    obtain ⟨source, joined, made⟩ := exists_of_bind_ok counted
    cases made
    exact ⟨source, joinParts_fits joined (Nat.zero_le _), rfl⟩

/-- A kernel that was accepted has the name that was asked for and no arguments yet. -/
theorem newKernel_ok {program : Nat} {name : Option String} {object : Object}
    (accepted : store.newKernel program name = .ok object) :
    ∃ signature, name = some signature.name ∧
      object = .kernel ⟨signature, List.replicate signature.parameters.length none⟩ := by
  obtain ⟨_, _, located⟩ := exists_of_bind_ok accepted
  obtain ⟨_, _, built⟩ := exists_of_bind_ok located
  cases name with
  | none => cases built
  | some name =>
    dsimp only at built
    split at built
    · cases built
    · rename_i signature found
      cases built
      have named := List.find?_some found
      exact ⟨signature, congrArg some (beq_iff_eq.mp named).symm, rfl⟩

private theorem newUserEvent_ok {context : Nat} {object : Object}
    (accepted : store.newUserEvent context = .ok object) :
    object = .event (.user ExecutionStatus.submittedCode) := by
  obtain ⟨_, _, made⟩ := exists_of_bind_ok accepted
  cases made
  rfl

/-- An image that was accepted has the pixels of its format, as many as its extent says. -/
theorem newImage_ok {context : Nat} {flags : UInt64} {format : Option RawFormat}
    {descriptor : Option ImageDescriptor} {host : Option Block} {object : Object}
    (accepted : store.newImage context flags format descriptor host = .ok object) :
    ∃ raw layout pixel data, format = some raw ∧ descriptor = some layout ∧
      (ImageFormat.ofRaw raw).pixelSize? = some pixel ∧ 0 < layout.width ∧ 0 < layout.height ∧
      data.size = layout.width * layout.height * pixel ∧ data.size ≤ memoryLimit ∧
      object = .memory { data := data, shape? := some ⟨layout.width, layout.height, pixel⟩ } := by
  obtain ⟨_, _, located⟩ := exists_of_bind_ok accepted
  obtain ⟨_, _, checked⟩ := exists_of_bind_ok located
  cases format with
  | none => cases checked
  | some raw =>
    cases descriptor with
    | none => cases checked
    | some layout =>
      dsimp only at checked
      split at checked
      · cases checked
      · rename_i pixel sized
        obtain ⟨_, _, flat⟩ := exists_of_bind_ok checked
        obtain ⟨_, extent, extended⟩ := exists_of_bind_ok flat
        obtain ⟨_, _, asked⟩ := exists_of_bind_ok extended
        obtain ⟨_, fits, made⟩ := exists_of_bind_ok asked
        obtain ⟨wide, high⟩ := Bool.and_eq_true_iff.mp (require_ok_iff.mp extent)
        cases made
        have sizes (data : Block) (same : data.size = layout.width * pixel * layout.height) :
            data.size = layout.width * layout.height * pixel ∧ data.size ≤ memoryLimit :=
          ⟨same.trans (Nat.mul_right_comm _ _ _), same ▸ reserve_ok_iff.mp fits⟩
        refine ⟨raw, layout, pixel, _, rfl, rfl, sized, Nat.pos_of_ne_zero (bne_iff_ne.mp wide),
          Nat.pos_of_ne_zero (bne_iff_ne.mp high), and_assoc.mp ⟨sizes _ ?_, rfl⟩⟩
        cases host with
        | none => rfl
        | some host => exact Block.size_patch _ _

/-- A creating call that is accepted makes an object of its own sort. -/
theorem fresh_of_creation {request : Request} {object : Object}
    (service : store.service request = .creation (.ok object)) : Fresh request.entry object := by
  cases request with
  | createContext =>
    obtain ⟨_, _, rfl⟩ := newContext_ok (Service.creation.inj service)
    exact .context _
  | createQueue =>
    obtain ⟨_, _, _, known, rfl⟩ := newQueue_ok (Service.creation.inj service)
    exact .queue known
  | createBuffer =>
    obtain ⟨filled, fits, _, rfl, rfl⟩ := newBuffer_ok (Service.creation.inj service)
    exact .buffer filled fits
  | createImage =>
    obtain ⟨_, _, _, _, _, _, _, wide, high, sized, fits, rfl⟩ :=
      newImage_ok (Service.creation.inj service)
    exact .image wide high sized fits
  | createProgram =>
    obtain ⟨_, fits, rfl⟩ := newProgram_ok (Service.creation.inj service)
    exact .program fits
  | createKernel =>
    obtain ⟨signature, _, rfl⟩ := newKernel_ok (Service.creation.inj service)
    exact .kernel signature
  | createUserEvent =>
    obtain rfl := newUserEvent_ok (Service.creation.inj service)
    exact .event
  | _ => cases service

theorem settle_ok {id : Nat} {status : Int} {after : Store}
    (accepted : store.settle id status = .ok after) :
    store.objects.find? id = some (.event (.user ExecutionStatus.submittedCode)) ∧ status ≤ 0 ∧
      after = store.replace id (.event (.user status)) := by
  unfold settle at accepted
  split at accepted
  · cases accepted
  · cases accepted
  · rename_i current found
    split at accepted
    · cases accepted
    · rename_i decided
      split at accepted
      · cases accepted
      · rename_i undecided
        cases accepted
        rw [Decidable.not_not.mp undecided] at found
        exact ⟨event_ok_iff.mp found, Int.not_lt.mp decided, rfl⟩

theorem setArgument_ok {id index size : Nat} {value : Option Bytes} {after : Store}
    (accepted : store.setArgument id index size value = .ok after) :
    ∃ kernel bytes, store.objects.find? id = some (.kernel kernel) ∧
      after = store.replace id
        (.kernel { kernel with arguments := kernel.arguments.set index (some bytes) }) := by
  obtain ⟨kernel, found, located⟩ := exists_of_bind_ok accepted
  cases named : kernel.signature.parameters[index]? with
  | none =>
    rw [named] at located
    cases located
  | some parameter =>
    rw [named] at located
    obtain ⟨bytes, _, bound⟩ := exists_of_bind_ok located
    cases bound
    exact ⟨kernel, bytes, kernel_ok_iff.mp found, rfl⟩

theorem remove_ok {kind : ObjectKind} {id : Nat} {after : Store}
    (accepted : store.remove kind id = .ok after) :
    ∃ object, store.objects.find? id = some object ∧ object.kind = kind ∧
      after = { store with objects := store.objects.erase id } := by
  unfold remove at accepted
  split at accepted
  · rename_i object found
    split at accepted
    · rename_i same
      cases accepted
      exact ⟨object, found, same, rfl⟩
    · cases accepted
  · cases accepted

/-- An update revises an object, or is a release and removes one. -/
theorem update_ok {request : Request} {after : Store}
    (service : store.service request = .update (.ok after)) :
    ((∀ kind id, request ≠ .release kind id) ∧ Revision store after) ∨
      ∃ kind id object, request = .release kind id ∧ store.objects.find? id = some object ∧
        object.kind = kind ∧ after = { store with objects := store.objects.erase id } := by
  cases request with
  | setKernelArg kernel index size value =>
    injection service with accepted
    obtain ⟨bound, bytes, found, rfl⟩ := setArgument_ok accepted
    refine Or.inl ⟨?_, .revised found (.kernel index bytes)⟩
    intro kind id released
    cases released
  | setEventStatus event status =>
    injection service with accepted
    obtain ⟨found, decided, rfl⟩ := settle_ok accepted
    refine Or.inl ⟨?_, .revised found (.event decided)⟩
    intro kind id released
    cases released
  | release kind id =>
    injection service with accepted
    obtain ⟨object, found, same, rfl⟩ := remove_ok accepted
    exact Or.inr ⟨kind, id, object, rfl, found, same, rfl⟩
  | _ => cases service

/-- The memory object that a command writes to, as its arguments name it. Squaring writes to the
one that the bytes of argument 1 name. -/
inductive Writes (store : Store) : Command → Nat → Prop where
  | write {buffer offset size : Nat} {data : Option Block} :
      Writes store (.writeBuffer buffer offset size data) buffer
  | copy {source target sourceOffset targetOffset size : Nat} :
      Writes store (.copyBuffer source target sourceOffset targetOffset size) target
  | fill {buffer patternSize offset size : Nat} {pattern : Option Bytes} :
      Writes store (.fillBuffer buffer pattern patternSize offset size) buffer
  | image {image rowPitch slicePitch : Nat} {origin extent : Option Triple} {data : Option Block} :
      Writes store (.writeImage image origin extent rowPitch slicePitch data) image
  | square {id count : Nat} {offsets globals locals : Option (List Nat)} {kernel : Kernel}
      {target : Nat} (located : store.kernel id = .ok kernel)
      (named : kernel.signature.name = "square")
      (aimed : argumentNumber kernel.arguments 1 8 = .ok target) :
      Writes store (.dispatch id count offsets globals locals) target

/-- Effects that change no memory object, or the bytes of the one that the command names, but not
how many they are. -/
inductive Carries (store : Store) (command : Command) : Effect → Prop where
  | still (writes : List (Nat × Block)) : Carries store command { writes := writes }
  | changed {id : Nat} {memory : Memory} {data : Block} (written : store.Writes command id)
      (located : store.memory id = .ok memory) (sized : data.size = memory.data.size) :
      Carries store command { change := some (id, data) }

/-- A range that was accepted lies inside a buffer. -/
theorem bufferRange_ok {id offset size : Nat} {memory : Memory}
    (accepted : store.bufferRange id offset size = .ok memory) :
    store.memory id = .ok memory ∧ memory.shape? = none ∧ offset + size ≤ memory.data.size := by
  obtain ⟨found, located, flat⟩ := exists_of_bind_ok accepted
  obtain ⟨_, bare, inside⟩ := exists_of_bind_ok flat
  obtain ⟨_, fits, same⟩ := exists_of_bind_ok inside
  cases same
  exact ⟨located, Option.isNone_iff_eq_none.mp (require_ok_iff.mp bare),
    of_decide_eq_true (require_ok_iff.mp fits)⟩

private theorem carries_writeBuffer {buffer offset size : Nat} {data : Option Block} {effect : Effect}
    (accepted : store.writeBuffer buffer offset size data = .ok effect) :
    store.Carries (.writeBuffer buffer offset size data) effect := by
  obtain ⟨memory, ranged, written⟩ := exists_of_bind_ok accepted
  cases data with
  | none => cases written
  | some host =>
    cases written
    exact .changed .write (bufferRange_ok ranged).1 (Block.size_overwrite _ _ _)

private theorem carries_copyBuffer {source target sourceOffset targetOffset size : Nat} {effect : Effect}
    (accepted : store.copyBuffer source target sourceOffset targetOffset size = .ok effect) :
    store.Carries (.copyBuffer source target sourceOffset targetOffset size) effect := by
  obtain ⟨_, _, sourced⟩ := exists_of_bind_ok accepted
  obtain ⟨memory, ranged, apart⟩ := exists_of_bind_ok sourced
  obtain ⟨_, _, copied⟩ := exists_of_bind_ok apart
  cases copied
  exact .changed .copy (bufferRange_ok ranged).1 (Block.size_overwrite _ _ _)

private theorem carries_fillBuffer {buffer patternSize offset size : Nat} {pattern : Option Bytes}
    {effect : Effect}
    (accepted : store.fillBuffer buffer pattern patternSize offset size = .ok effect) :
    store.Carries (.fillBuffer buffer pattern patternSize offset size) effect := by
  obtain ⟨memory, ranged, patterned⟩ := exists_of_bind_ok accepted
  cases pattern with
  | none => cases patterned
  | some host =>
    obtain ⟨_, _, filled⟩ := exists_of_bind_ok patterned
    cases filled
    exact .changed .fill (bufferRange_ok ranged).1 (Block.size_overwrite _ _ _)

private theorem carries_writeImage {image rowPitch slicePitch : Nat} {origin extent : Option Triple}
    {data : Option Block} {effect : Effect}
    (accepted : store.writeImage image origin extent rowPitch data = .ok effect) :
    store.Carries (.writeImage image origin extent rowPitch slicePitch data) effect := by
  obtain ⟨window, _, placed⟩ := exists_of_bind_ok accepted
  obtain ⟨memory, located, planned⟩ := exists_of_bind_ok placed
  obtain ⟨plan, _, written⟩ := exists_of_bind_ok planned
  cases data with
  | none => cases written
  | some host =>
    cases written
    exact .changed .image located (Block.size_patch _ _)

/-- The memory objects that squaring reads and writes are those that the first two arguments
name. -/
theorem runSquare_ok {kernel : Kernel} {items : Nat} {effect : Effect}
    (accepted : store.runSquare kernel items = .ok effect) :
    ∃ source sourceMemory target targetMemory data,
      argumentNumber kernel.arguments 0 8 = .ok source ∧ store.memory source = .ok sourceMemory ∧
      argumentNumber kernel.arguments 1 8 = .ok target ∧ store.memory target = .ok targetMemory ∧
      data.size = targetMemory.data.size ∧ effect = { change := some (target, data) } := by
  obtain ⟨source, sourced, targeted⟩ := exists_of_bind_ok accepted
  obtain ⟨target, aimed, limited⟩ := exists_of_bind_ok targeted
  obtain ⟨limit, _, located⟩ := exists_of_bind_ok limited
  obtain ⟨sourceMemory, read, covered⟩ := exists_of_bind_ok located
  obtain ⟨_, _, squared⟩ := exists_of_bind_ok covered
  obtain ⟨targetMemory, written, fitting⟩ := exists_of_bind_ok squared
  obtain ⟨_, _, made⟩ := exists_of_bind_ok fitting
  refine ⟨source, sourceMemory, target, targetMemory, _, sourced, read, aimed, written, ?_,
    (Except.ok.inj made).symm⟩
  exact Block.size_overwrite _ _ _

/-- Of all kernels only the one named `square` does anything. -/
theorem dispatch_ok {id dimensions : Nat} {globals locals : Option (List Nat)} {effect : Effect}
    (accepted : store.dispatch id dimensions globals locals = .ok effect) :
    ∃ kernel, store.kernel id = .ok kernel ∧
      ((kernel.signature.name = "square" ∧ ∃ items, store.runSquare kernel items = .ok effect) ∨
        (kernel.signature.name ≠ "square" ∧ effect = {})) := by
  obtain ⟨kernel, found, located⟩ := exists_of_bind_ok accepted
  obtain ⟨_, _, dimensioned⟩ := exists_of_bind_ok located
  refine ⟨kernel, found, ?_⟩
  cases globals with
  | none => cases dimensioned
  | some globals =>
    obtain ⟨_, _, positive⟩ := exists_of_bind_ok dimensioned
    cases locals <;> (
      obtain ⟨_, _, grouped⟩ := exists_of_bind_ok positive
      obtain ⟨_, _, bound⟩ := exists_of_bind_ok grouped
      split at bound
      · exact Or.inl ⟨‹_›, _, bound⟩
      · exact Or.inr ⟨‹_›, (Except.ok.inj bound).symm⟩)

/-- A command writes to the memory object that it names, if at all, and keeps its size. -/
theorem carries_effect {command : Command} {effect : Effect}
    (accepted : store.effect command = .ok effect) : store.Carries command effect := by
  cases command with
  | readBuffer =>
    obtain ⟨_, _, ranged⟩ := exists_of_bind_ok accepted
    obtain ⟨_, _, read⟩ := exists_of_bind_ok ranged
    cases read
    exact .still _
  | readImage =>
    obtain ⟨_, _, placed⟩ := exists_of_bind_ok accepted
    obtain ⟨_, _, located⟩ := exists_of_bind_ok placed
    obtain ⟨_, _, planned⟩ := exists_of_bind_ok located
    obtain ⟨_, _, read⟩ := exists_of_bind_ok planned
    cases read
    exact .still _
  | writeBuffer => exact carries_writeBuffer accepted
  | copyBuffer => exact carries_copyBuffer accepted
  | fillBuffer => exact carries_fillBuffer accepted
  | writeImage => exact carries_writeImage accepted
  | dispatch =>
    obtain ⟨kernel, found, ⟨named, items, squared⟩ | ⟨_, rfl⟩⟩ := dispatch_ok accepted
    · obtain ⟨_, _, _, _, _, _, _, aimed, located, sized, rfl⟩ := runSquare_ok squared
      exact .changed (.square found named aimed) located sized
    · exact .still []
  | barrier | marker =>
    cases accepted
    exact .still []

/-- Carrying out a command revises at most the memory object that it writes to. -/
theorem revision_apply {command : Command} {effect : Effect}
    (accepted : store.effect command = .ok effect) : Revision store (store.apply effect) := by
  cases carries_effect accepted with
  | still => exact .unchanged
  | changed written located sized =>
    simp only [Store.apply, located]
    exact .revised (memory_ok_iff.mp located) (.memory sized)

end Store

namespace Revision
variable {store after : Store}

theorem isSome_find? (revision : Revision store after) (id : Nat) :
    (after.objects.find? id).isSome = (store.objects.find? id).isSome := by
  cases revision with
  | unchanged => rfl
  | revised found revises =>
    rw [Store.replace, Table.find?_replace]
    split
    · cases store.objects.find? id <;> rfl
    · rfl

end Revision

private theorem Store.checkEvents_ok {store : Store} {error : NativeError} {events : List Nat}
    (accepted : store.checkEvents error events = .ok ()) :
    ∀ event ∈ events, (store.objects.find? event).isSome := by
  induction events with
  | nil => simp
  | cons first rest ih =>
    unfold Store.checkEvents at accepted
    split at accepted
    · rename_i event found
      intro event member
      rcases List.mem_cons.mp member with rfl | later
      · rw [Store.event_ok_iff.mp found]
        rfl
      · exact ih accepted event later
    · cases accepted

theorem Machine.waitList_ok {store : Store} {waits : HandleList} {events : List Nat}
    (accepted : waitList store waits = .ok events) :
    ∀ event ∈ events, (store.objects.find? event).isSome := by
  unfold waitList at accepted
  split at accepted
  · split at accepted
    · cases accepted
      simp
    · cases accepted
  · split at accepted
    · cases accepted
    · obtain ⟨_, checked, listed⟩ := exists_of_bind_ok accepted
      cases listed
      exact Store.checkEvents_ok checked

/-- The first tick of a command in a queue with these properties, if it is profiled. -/
def Store.firstTick? (store : Store) (properties : UInt64) : Option Nat :=
  if properties &&& profilingEnabled != 0 then some store.clock else none

/-- The event of a finished command is stored once its ticks have passed. -/
theorem finishCommand_timed (store : Store) (properties : UInt64) (waits : List Nat) :
    Machine.finishCommand store properties waits =
      { store with clock := store.clock + if (store.firstTick? properties).isSome then 4 else 0 }.add
        (.event (.command waits (store.firstTick? properties))) := by
  unfold Machine.finishCommand Store.firstTick?
  split <;> rfl

/-- Storing the event of a finished command is one addition, perhaps at a later tick. -/
theorem finishCommand_eq (store : Store) (properties : UInt64) (waits : List Nat) :
    ∃ clock queuedAt, Machine.finishCommand store properties waits =
      { store with clock := clock }.add (.event (.command waits queuedAt)) :=
  ⟨_, _, finishCommand_timed store properties waits⟩

theorem Change.unchanged (store : Store) : Change store store := .revised .unchanged

theorem Outcome.change {machine after : Machine} {request : Request}
    {answer : Except Fault Response} (outcome : Outcome machine request answer after) :
    Change machine.store after.store := by
  cases outcome with
  | halted | injected | refused | faulted | exhausted | answered | waited | suppressed =>
    exact .unchanged machine.store
  | created _ _ service =>
    exact .added (.made (Store.fresh_of_creation service))
  | updated _ _ service =>
    rcases Store.update_ok service with ⟨_, revision⟩ | ⟨_, _, _, _, found, _, rfl⟩
    · exact .revised revision
    · exact .removed found
  | compiled _ _ _ found =>
    exact .revised (.revised (Store.program_ok_iff.mp found) (.compiled _))
  | rejected _ _ _ found =>
    exact .revised (.revised (Store.program_ok_iff.mp found) (.rejected _))
  | @queued _ _ _ _ properties events effect _ _ _ _ listed accepted =>
    have carried := Store.revision_apply accepted
    obtain ⟨clock, queuedAt, finished⟩ := finishCommand_eq (machine.store.apply effect) properties events
    refine .composed (.revised carried) (.composed (.ticked _ clock) ?_)
    dsimp only
    rw [finished]
    refine .added (.queued fun wait member => ?_)
    exact (carried.isSome_find? wait).trans (Machine.waitList_ok listed wait member)

theorem Outcome.injection_eq {machine after : Machine} {request : Request}
    {answer : Except Fault Response} (outcome : Outcome machine request answer after) :
    after.injection = machine.injection := by
  cases outcome <;> rfl

/-- Every call changes the store by such changes only. -/
theorem change_perform (machine : Machine) (request : Request) :
    Change machine.store (Machine.perform request machine).2.store :=
  (outcome_perform machine request).change

/-- A release always answers. It removes the object if there is one of the kind, unless an
injected failure answers in its place. -/
theorem Machine.perform_release {machine : Machine} (serving : machine.halted = false)
    (kind : ObjectKind) (id : Nat) :
    ∃ status store, machine.perform (.release kind id) =
        (.ok { status := status }, { machine.counted (.release kind id) with store := store }) ∧
      ((machine.injection.failure? (.release kind) = none ∧
          (∃ object, machine.store.objects.find? id = some object ∧ object.kind = kind) ∧
          store = { machine.store with objects := machine.store.objects.erase id }) ∨
        (store = machine.store ∧ (machine.injection.failure? (.release kind) = none →
          ∀ object, machine.store.objects.find? id = some object → object.kind ≠ kind))) := by
  cases allowed : machine.injection.failure? (.release kind) with
  | some status =>
    refine ⟨status, machine.store,
      @perform_of_failure machine (.release kind id) status serving allowed, Or.inr ⟨rfl, ?_⟩⟩
    intro impossible
    cases impossible
  | none =>
    rw [@perform_of_serving machine (.release kind id) serving allowed]
    simp only [serve, Store.remove, counted]
    cases found : machine.store.objects.find? id with
    | none =>
      refine ⟨_, machine.store, rfl, Or.inr ⟨rfl, fun _ other present => ?_⟩⟩
      cases present
    | some object =>
      by_cases same : object.kind = kind
      · simp only [same, if_true]
        exact ⟨0, _, rfl, Or.inl ⟨trivial, ⟨object, rfl, same⟩, rfl⟩⟩
      · simp only [same, if_false]
        refine ⟨_, machine.store, rfl, Or.inr ⟨rfl, fun _ other present => ?_⟩⟩
        exact Option.some.inj present ▸ same

end Offload.Simulator

import Offload.Proofs.Locality
import Offload.Proofs.Rectangles

/-! Commands that do not get into each other's way. What a command does to memory depends on the
bytes that it reads, and it replaces the bytes of its range or rectangle only; two commands of which
neither replaces what the other reads or replaces can therefore change places. -/
namespace Offload

/-- Two memories in which the same bytes were replaced: those are alike, and in `echo` every other
byte is the one of `before`. -/
structure Block.Echoes (replaced : Nat → Prop) (block before echo : Block) : Prop where
  new : ∀ index, replaced index → echo.bytes[index]? = block.bytes[index]?
  old : ∀ index, ¬ replaced index → echo.bytes[index]? = before.bytes[index]?

namespace Block.Echoes
variable {block other : Block}

theorem congr {replaced others : Nat → Prop} {before echo : Block}
    (echoes : Echoes replaced block before echo) (same : ∀ index, others index ↔ replaced index) :
    Echoes others block before echo where
  new index new := echoes.new index ((same index).mp new)
  old index old := echoes.old index fun new => old ((same index).mpr new)

theorem overwrite {start size : Nat} {data copy : Block} (sized : other.size = block.size)
    (fits : start + size ≤ block.size) (data_size : data.size = size) (copy_size : copy.size = size)
    (shown : ∀ index < size, copy.bytes[index]? = data.bytes[index]?) :
    Echoes (Covers start size) (block.overwrite start data) other (other.overwrite start copy) := by
  constructor
  · intro index covered
    rw [getElem?_bytes_overwrite (by omega), getElem?_bytes_overwrite (by omega), data_size, copy_size,
      if_pos covered, if_pos covered]
    obtain ⟨low, high⟩ := covered
    exact shown (index - start) (by omega)
  · intro index uncovered
    rw [getElem?_bytes_overwrite (by omega), copy_size, if_neg uncovered]

private theorem patch {plan : RowPlan} {host : Block} {hostSize : Nat} (sized : other.size = block.size)
    (fits : plan.Fits hostSize block.size) :
    Echoes (fun index => ∃ position, plan.Pairs position index) (block.patch (plan.upload host)) other
      (other.patch (plan.upload host)) := by
  have pieces : plan.upload host = (List.range plan.count).map fun row =>
      (plan.deviceStart + row * plan.devicePitch, host.read (row * plan.hostPitch) plan.length) :=
    List.map_map
  obtain ⟨shown, _⟩ := @getElem?_patch_rows block _ _ _ _
    (fun row => host.read (row * plan.hostPitch) plan.length) fits.deviceApart (fun _ _ => rfl) fits.placed
  obtain ⟨repeated, kept⟩ := @getElem?_patch_rows other _ _ _ _
    (fun row => host.read (row * plan.hostPitch) plan.length) fits.deviceApart (fun _ _ => rfl)
    (sized ▸ fits.placed)
  rw [pieces]
  constructor
  · rintro _ ⟨_, row, below, offset, short, _, rfl⟩
    rw [shown row below offset short, repeated row below offset short]
  · intro index alone
    apply kept
    rintro row below ⟨start, stop⟩
    exact alone ⟨_, row, below, index - (plan.deviceStart + row * plan.devicePitch), by omega, rfl, by omega⟩

end Block.Echoes

/-- Commands that move data from the host or from one memory object to another. -/
inductive Command.MovesData : Command → Prop where
  | write {buffer offset size : Nat} {data : Option Block} :
      MovesData (.writeBuffer buffer offset size data)
  | fill {buffer patternSize offset size : Nat} {pattern : Option Bytes} :
      MovesData (.fillBuffer buffer pattern patternSize offset size)
  | copy {source target sourceOffset targetOffset size : Nat} :
      MovesData (.copyBuffer source target sourceOffset targetOffset size)
  | image {image rowPitch slicePitch : Nat} {origin extent : Option Triple} {data : Option Block} :
      MovesData (.writeImage image origin extent rowPitch slicePitch data)

/-- The bytes of memory objects that a command reads: of those that move data, copies read some. -/
inductive Command.Reads : Command → Nat → Nat → Prop where
  | copy {source target sourceOffset targetOffset size index : Nat}
      (covered : Covers sourceOffset size index) :
      Reads (.copyBuffer source target sourceOffset targetOffset size) source index

end Offload

namespace Offload.Simulator

/-- The bytes of memory objects that a command replaces: a range of a buffer, or the pixels of a
rectangle of an image. -/
inductive Store.Replaces (store : Store) : Command → Nat → Nat → Prop where
  | write {buffer offset size index : Nat} {data : Option Block} (covered : Covers offset size index) :
      Replaces store (.writeBuffer buffer offset size data) buffer index
  | fill {buffer patternSize offset size index : Nat} {pattern : Option Bytes}
      (covered : Covers offset size index) :
      Replaces store (.fillBuffer buffer pattern patternSize offset size) buffer index
  | copy {source target sourceOffset targetOffset size index : Nat}
      (covered : Covers targetOffset size index) :
      Replaces store (.copyBuffer source target sourceOffset targetOffset size) target index
  | image {image rowPitch slicePitch column row byte : Nat} {origin extent : Triple}
      {data : Option Block} {memory : Memory} {shape : ImageShape}
      (located : store.memory image = .ok memory) (shaped : memory.shape? = some shape)
      (wide : column < extent.x) (high : row < extent.y) (small : byte < shape.pixel) :
      Replaces store (.writeImage image (some origin) (some extent) rowPitch slicePitch data) image
        (shape.index (origin.x + column) (origin.y + row) byte)

/-- Neither command replaces a byte that the other replaces or reads. -/
structure Store.Independent (store : Store) (first second : Command) : Prop where
  apart : ∀ id index, store.Replaces first id index → ¬ store.Replaces second id index
  unread : ∀ id index, store.Replaces first id index → ¬ second.Reads id index
  reread : ∀ id index, store.Replaces second id index → ¬ first.Reads id index

/-- What may have become of an object by commands that move data. -/
inductive Refilled : Object → Object → Prop where
  | same (object : Object) : Refilled object object
  | memory {memory : Memory} {data : Block} (sized : data.size = memory.data.size) :
      Refilled (.memory memory) (.memory { memory with data := data })

/-- Every object of `here` is in `there`, though perhaps with other bytes. -/
def Store.Alike (here there : Store) : Prop :=
  ∀ id object, here.objects.find? id = some object →
    ∃ later, there.objects.find? id = some later ∧ Refilled object later

namespace Store
variable {here there store : Store} {id : Nat}

theorem contents_of_memory {memory : Memory} (located : store.memory id = .ok memory) :
    store.contents id = memory.data.bytes := by
  rw [contents, located]

theorem Alike.refl (store : Store) : store.Alike store := fun _ object found => ⟨object, found, .same _⟩

theorem Alike.memory (alike : here.Alike there) {memory : Memory} (located : here.memory id = .ok memory) :
    ∃ data, there.memory id = .ok { memory with data := data } ∧ data.size = memory.data.size := by
  obtain ⟨later, found, refilled⟩ := alike id _ (memory_ok_iff.mp located)
  cases refilled with
  | same => exact ⟨memory.data, memory_ok_iff.mpr found, rfl⟩
  | memory sized => exact ⟨_, memory_ok_iff.mpr found, sized⟩

private theorem Alike.queue (alike : here.Alike there) {properties : UInt64}
    (located : here.queue id = .ok properties) : there.queue id = .ok properties := by
  obtain ⟨later, found, refilled⟩ := alike id _ (queue_ok_iff.mp located)
  cases refilled with
  | same => exact queue_ok_iff.mpr found

private theorem Alike.event (alike : here.Alike there) {event : Event} (located : here.event id = .ok event) :
    there.event id = .ok event := by
  obtain ⟨later, found, refilled⟩ := alike id _ (event_ok_iff.mp located)
  cases refilled with
  | same => exact event_ok_iff.mpr found

private theorem Alike.checkEvents (alike : here.Alike there) {error : NativeError} {events : List Nat}
    (accepted : here.checkEvents error events = .ok ()) : there.checkEvents error events = .ok () := by
  induction events with
  | nil => rfl
  | cons first rest ih =>
    unfold Store.checkEvents at accepted ⊢
    split at accepted
    · rename_i event located
      rw [alike.event located]
      exact ih accepted
    · cases accepted

private theorem Alike.waitList (alike : here.Alike there) {waits : HandleList} {events : List Nat}
    (accepted : Machine.waitList here waits = .ok events) : Machine.waitList there waits = .ok events := by
  unfold Machine.waitList at accepted ⊢
  split at accepted
  · exact accepted
  · split at accepted
    · cases accepted
    · rename_i given
      obtain ⟨_, checked, listed⟩ := exists_of_bind_ok accepted
      rw [if_neg given]
      dsimp only
      rw [alike.checkEvents checked]
      exact listed

private theorem contents_apply {target : Nat} {memory : Memory} {block : Block}
    (located : store.memory target = .ok memory) (id : Nat) :
    (store.apply { change := some (target, block) }).contents id =
      if id = target then block.bytes else store.contents id := by
  have replaced : store.apply { change := some (target, block) } =
      store.replace target (.memory { memory with data := block }) := by
    simp only [apply, located]
  rw [replaced]
  by_cases same : id = target
  · subst same
    have found : (store.replace id (.memory { memory with data := block })).memory id =
        .ok { memory with data := block } := by
      rw [memory_ok_iff, Store.replace, Table.find?_replace, if_pos rfl, memory_ok_iff.mp located]
      rfl
    rw [if_pos rfl, contents_of_memory found]
  · rw [if_neg same, contents, contents, Store.memory, Store.memory, Store.replace, Table.find?_replace,
      if_neg same]

/-- What a command comes to in a store with other bytes, if those that it reads are the same: it is
accepted again, replaces the same bytes by the same, and keeps all others. -/
def Repeats (here there : Store) (command : Command) (effect : Effect) : Prop :=
  ∃ echo, there.effect command = .ok echo ∧ ∀ id index,
    (here.Replaces command id index →
      ((there.apply echo).contents id)[index]? = ((here.apply effect).contents id)[index]?) ∧
    (¬ here.Replaces command id index →
      ((there.apply echo).contents id)[index]? = (there.contents id)[index]?)

theorem repeats_of_echoes {command : Command} {target : Nat} {memory other : Memory} {block copy : Block}
    (located : here.memory target = .ok memory) (found : there.memory target = .ok other)
    (accepted : there.effect command = .ok { change := some (target, copy) })
    (aimed : ∀ id index, here.Replaces command id index → id = target)
    (echoes : Block.Echoes (here.Replaces command target) block other.data copy) :
    here.Repeats there command { change := some (target, block) } := by
  refine ⟨_, accepted, fun id index => ?_⟩
  rw [contents_apply found, contents_apply located]
  by_cases same : id = target
  · subst same
    rw [if_pos rfl, if_pos rfl, contents_of_memory found]
    exact ⟨echoes.new index, echoes.old index⟩
  · rw [if_neg same]
    exact ⟨fun replaced => (same (aimed id index replaced)).elim, fun _ => rfl⟩

/-- The rectangle of an image that a transfer names. -/
def rectangle (origin extent : Triple) (rowPitch : Nat) : ImageRegion := ⟨origin, extent, rowPitch, 0⟩

/-- An image is written only where the rectangle lies in it. -/
theorem writeImage_ok {image rowPitch slicePitch : Nat} {origin extent : Option Triple}
    {data : Option Block} {effect : Effect}
    (accepted : store.effect (.writeImage image origin extent rowPitch slicePitch data) = .ok effect) :
    ∃ start size host memory shape, origin = some start ∧ extent = some size ∧ data = some host ∧
      store.memory image = .ok memory ∧ memory.shape? = some shape ∧
      (rectangle start size rowPitch).Fits shape ∧ effect =
        { change := some (image,
          memory.data.patch (((rectangle start size rowPitch).plan shape).upload host)) } := by
  obtain ⟨window, opened, located⟩ := exists_of_bind_ok accepted
  obtain ⟨memory, found, planned⟩ := exists_of_bind_ok located
  obtain ⟨plan, rows, written⟩ := exists_of_bind_ok planned
  cases origin with
  | none => cases opened
  | some start =>
    cases extent with
    | none => cases opened
    | some size =>
      obtain ⟨flat, rfl⟩ := Host.imageWindow_ok_iff.mp opened
      cases data with
      | none => cases written
      | some host =>
        obtain ⟨shape, shaped, _⟩ := Host.imageRows_ok rows
        have fits : (rectangle start size rowPitch).Fits shape := by
          refine Classical.byContradiction fun misfit => ?_
          cases rows.symm.trans (imageRows_of_misfit shaped flat misfit)
        cases rows.symm.trans (imageRows_of_fits shaped fits)
        cases written
        exact ⟨start, size, host, memory, shape, rfl, rfl, rfl, found, shaped, fits, rfl⟩

section
variable (alike : here.Alike there)
include alike

theorem Alike.bufferRange {offset size : Nat} {memory : Memory}
    (ranged : here.bufferRange id offset size = .ok memory) :
    ∃ data, there.bufferRange id offset size = .ok { memory with data := data } ∧
      data.size = memory.data.size := by
  obtain ⟨located, flat, inside⟩ := bufferRange_ok ranged
  obtain ⟨data, found, sized⟩ := alike.memory located
  refine ⟨data, ?_, sized⟩
  rw [bufferRange_of_buffer found flat, if_pos (sized ▸ inside)]

private theorem repeats_writeBuffer {buffer offset size : Nat} {data : Option Block} {effect : Effect}
    (accepted : here.effect (.writeBuffer buffer offset size data) = .ok effect) :
    here.Repeats there (.writeBuffer buffer offset size data) effect := by
  obtain ⟨memory, ranged, written⟩ := exists_of_bind_ok accepted
  cases data with
  | none => cases written
  | some host =>
    cases written
    obtain ⟨located, _, inside⟩ := bufferRange_ok ranged
    obtain ⟨data, again, sized⟩ := alike.bufferRange ranged
    refine repeats_of_echoes located (bufferRange_ok again).1 (effect_writeBuffer again host) ?_ ?_
    · rintro _ _ ⟨⟩
      rfl
    · refine (Block.Echoes.overwrite sized inside rfl rfl fun _ _ => rfl).congr fun index => ?_
      refine ⟨fun touches => ?_, .write⟩
      cases touches with
      | write covered => exact covered

private theorem repeats_fillBuffer {buffer patternSize offset size : Nat} {pattern : Option Bytes}
    {effect : Effect} (accepted : here.effect (.fillBuffer buffer pattern patternSize offset size) = .ok effect) :
    here.Repeats there (.fillBuffer buffer pattern patternSize offset size) effect := by
  obtain ⟨memory, ranged, patterned⟩ := exists_of_bind_ok accepted
  cases pattern with
  | none => cases patterned
  | some host =>
    obtain ⟨_, tiles, filled⟩ := exists_of_bind_ok patterned
    cases filled
    obtain ⟨located, _, inside⟩ := bufferRange_ok ranged
    obtain ⟨data, again, sized⟩ := alike.bufferRange ranged
    have accepted : there.effect (.fillBuffer buffer (some host) patternSize offset size) =
        .ok { change := some (buffer, data.overwrite offset (.tiled (host.read 0 patternSize) size)) } := by
      rw [Store.effect, fillBuffer, again]
      dsimp only [bind, Except.bind]
      rw [tiles]
    have length : (Block.tiled (host.read 0 patternSize) size).size = size := by
      apply Block.size_tiled
      rw [Bytes.length_read]
      exact (tiles_iff.mpr (require_ok_iff.mp tiles)).whole
    refine repeats_of_echoes located (bufferRange_ok again).1 accepted ?_ ?_
    · rintro _ _ ⟨⟩
      rfl
    · refine (Block.Echoes.overwrite sized inside length length fun _ _ => rfl).congr fun index => ?_
      refine ⟨fun touches => ?_, .fill⟩
      cases touches with
      | fill covered => exact covered

private theorem repeats_copyBuffer {source target sourceOffset targetOffset size : Nat} {effect : Effect}
    (read : ∀ index, Covers sourceOffset size index →
      (there.contents source)[index]? = (here.contents source)[index]?)
    (accepted : here.effect (.copyBuffer source target sourceOffset targetOffset size) = .ok effect) :
    here.Repeats there (.copyBuffer source target sourceOffset targetOffset size) effect := by
  obtain ⟨origin, sourced, targeted⟩ := exists_of_bind_ok accepted
  obtain ⟨memory, ranged, apart⟩ := exists_of_bind_ok targeted
  obtain ⟨_, separate, copied⟩ := exists_of_bind_ok apart
  cases copied
  obtain ⟨data, again, sized⟩ := alike.bufferRange ranged
  obtain ⟨bytes, sourcedAgain, sourceSized⟩ := alike.bufferRange sourced
  obtain ⟨located, _, inside⟩ := bufferRange_ok ranged
  obtain ⟨sourceLocated, _, sourceInside⟩ := bufferRange_ok sourced
  have accepted : there.effect (.copyBuffer source target sourceOffset targetOffset size) =
      .ok { change := some (target, data.overwrite targetOffset (bytes.window sourceOffset size)) } := by
    rw [Store.effect, copyBuffer, sourcedAgain]
    dsimp only [bind, Except.bind]
    rw [again]
    dsimp only
    rw [separate]
  refine repeats_of_echoes located (bufferRange_ok again).1 accepted ?_ ?_
  · rintro _ _ ⟨⟩
    rfl
  · refine (Block.Echoes.overwrite sized inside (Block.size_window_of_fits sourceInside)
      (Block.size_window_of_fits (sourceSized ▸ sourceInside)) fun index below => ?_).congr fun index => ?_
    · have same := read (sourceOffset + index) ⟨Nat.le_add_right _ _, Nat.add_lt_add_left below _⟩
      rw [contents_of_memory (bufferRange_ok sourcedAgain).1, contents_of_memory sourceLocated] at same
      rw [Block.getElem?_bytes_window, Block.getElem?_bytes_window, if_pos below, if_pos below]
      exact same
    · refine ⟨fun touches => ?_, .copy⟩
      cases touches with
      | copy covered => exact covered

private theorem repeats_writeImage {image rowPitch slicePitch : Nat} {origin extent : Option Triple}
    {data : Option Block} {effect : Effect}
    (fitting : ∀ memory, here.memory image = .ok memory → (Object.memory memory).WellFormed)
    (accepted : here.effect (.writeImage image origin extent rowPitch slicePitch data) = .ok effect) :
    here.Repeats there (.writeImage image origin extent rowPitch slicePitch data) effect := by
  obtain ⟨start, size, host, memory, shape, rfl, rfl, rfl, located, shaped, fits, rfl⟩ :=
    writeImage_ok accepted
  obtain ⟨other, found, sized⟩ := alike.memory located
  have filled : memory.data.size = shape.width * shape.height * shape.pixel := by
    have fitting := fitting memory located
    obtain ⟨data, shape?⟩ := memory
    cases shaped
    cases fitting with
    | image _ _ sized => exact sized
  have placed := fits.plan_fits rfl (Nat.le_refl _) filled
  refine repeats_of_echoes located found (effect_writeImage slicePitch found shaped fits host) ?_ ?_
  · rintro _ _ ⟨⟩
    rfl
  · refine (Block.Echoes.patch sized placed).congr fun index => ?_
    constructor
    · intro replaced
      cases replaced with
      | image again alsoShaped wide high small =>
        cases located.symm.trans again
        cases shaped.symm.trans alsoShaped
        exact ⟨_, (ImageRegion.plan_pairs_iff _ _).mp ⟨_, wide, _, high, _, small, rfl, rfl⟩⟩
    · rintro ⟨position, paired⟩
      obtain ⟨column, wide, row, high, byte, small, _, rfl⟩ :=
        (ImageRegion.plan_pairs_iff position index).mpr paired
      exact .image located shaped wide high small

/-- A command that moves data does the same wherever the bytes that it reads are the same. -/
theorem repeats_of_moves {command : Command} {effect : Effect} (moves : command.MovesData)
    (fitting : ∀ id memory, here.memory id = .ok memory → (Object.memory memory).WellFormed)
    (read : ∀ id index, command.Reads id index →
      (there.contents id)[index]? = (here.contents id)[index]?)
    (accepted : here.effect command = .ok effect) : here.Repeats there command effect := by
  cases moves with
  | write => exact repeats_writeBuffer alike accepted
  | fill => exact repeats_fillBuffer alike accepted
  | copy => exact repeats_copyBuffer alike (fun index covered => read _ index (.copy covered)) accepted
  | image => exact repeats_writeImage alike (fitting _) accepted

end

private theorem alike_of_effect {command : Command} {effect : Effect}
    (accepted : store.effect command = .ok effect) : store.Alike (store.apply effect) := by
  cases carries_effect accepted with
  | still => exact .refl store
  | @changed target memory data written located sized =>
    intro id object found
    simp only [Store.apply, located, Store.replace, Table.find?_replace]
    by_cases same : id = target
    · subst same
      cases (memory_ok_iff.mp located).symm.trans found
      rw [if_pos rfl, found]
      exact ⟨_, rfl, .memory sized⟩
    · rw [if_neg same]
      exact ⟨object, found, .same object⟩

/-- The event of a finished command joins what is there. -/
theorem alike_finishCommand (alike : here.Alike there) (properties : UInt64) (waits : List Nat) :
    here.Alike (Machine.finishCommand there properties waits).2 := by
  obtain ⟨clock, queuedAt, finished⟩ := finishCommand_eq there properties waits
  intro id object found
  obtain ⟨later, present, refilled⟩ := alike id object found
  refine ⟨later, ?_, refilled⟩
  rw [finished]
  exact Table.find?_insert_of_found present

private theorem contents_finishCommand (store : Store) (properties : UInt64) (waits : List Nat) (id : Nat) :
    (Machine.finishCommand store properties waits).2.contents id = store.contents id := by
  obtain ⟨clock, queuedAt, finished⟩ := finishCommand_eq store properties waits
  rw [finished, contents, contents, Store.memory, Store.memory, Store.add, Table.find?_insert]
  cases store.objects.find? id with
  | some object => rfl
  | none => by_cases new : id = handleOf (store.made + 1) <;> simp only [new, if_true, if_false, Option.none_or]

end Store

namespace Machine
variable {machine here there : Machine} {queue : Nat} {command : Command} {waits : HandleList}
  {wantEvent : Bool}

/-- A call that reports success. -/
def Succeeds (machine : Machine) (request : Request) : Prop :=
  ∃ response, (machine.perform request).1 = .ok response ∧ response.status = 0

/-- A command that is carried out: what has been found, and the store afterwards. -/
structure CarriesOut (machine : Machine) (queue : Nat) (command : Command) (waits : HandleList)
    (effect : Effect) (after : Store) : Prop where
  allowed : machine.injection.failure? (.enqueue command.kind) = none
  listed : ∃ events, waitList machine.store waits = .ok events
  accepted : machine.store.effect command = .ok effect
  finished : ∃ properties events, machine.store.queue queue = .ok properties ∧
    after = (finishCommand (machine.store.apply effect) properties events).2

/-- A command is accepted because an injected status says so, or because it is carried out. -/
theorem accepts_enqueue_cases
    (accepted : machine.Succeeds (.enqueue queue command waits wantEvent)) :
    machine.halted = false ∧
      (machine.perform (.enqueue queue command waits wantEvent)).2.halted = false ∧
      ((machine.injection.failure? (.enqueue command.kind) = some 0 ∧
          (machine.perform (.enqueue queue command waits wantEvent)).2.store = machine.store) ∨
        ∃ effect, machine.CarriesOut queue command waits effect
          (machine.perform (.enqueue queue command waits wantEvent)).2.store) := by
  obtain ⟨response, answered, success⟩ := accepted
  have outcome := outcome_perform machine (.enqueue queue command waits wantEvent)
  generalize (machine.perform (.enqueue queue command waits wantEvent)).1 = answer at answered outcome
  generalize (machine.perform (.enqueue queue command waits wantEvent)).2 = after at outcome ⊢
  cases outcome with
  | halted | faulted | exhausted => cases answered
  | injected serving failure =>
    cases answered
    cases success
    exact ⟨serving, serving, Or.inl ⟨failure, rfl⟩⟩
  | refused code _ _ _ _ failing =>
    cases answered
    exact (failing success).elim
  | queued serving allowed service found listed carried =>
    cases service
    exact ⟨serving, serving, Or.inr ⟨_, allowed, ⟨_, listed⟩, carried, _, _, found, rfl⟩⟩
  | answered _ _ service => cases service
  | waited _ _ _ service => cases service
  | suppressed _ _ service => cases service
  | created _ _ service => cases service
  | updated _ _ service => cases service
  | compiled _ _ service => cases service
  | rejected _ _ service => cases service

private theorem perform_of_found {properties : UInt64} {events : List Nat} {effect : Effect}
    (serving : machine.halted = false)
    (allowed : machine.injection.failure? (.enqueue command.kind) = none)
    (found : machine.store.queue queue = .ok properties)
    (listed : waitList machine.store waits = .ok events)
    (accepted : machine.store.effect command = .ok effect) :
    machine.Succeeds (.enqueue queue command waits wantEvent) ∧
      (machine.perform (.enqueue queue command waits wantEvent)).2.store =
        (finishCommand (machine.store.apply effect) properties events).2 := by
  have performed : machine.perform (.enqueue queue command waits wantEvent) =
      (machine.counted (.enqueue queue command waits wantEvent)).enqueue queue command waits wantEvent :=
    perform_of_serving serving allowed
  simp only [enqueue, counted, found, listed, accepted] at performed
  rw [performed]
  exact ⟨⟨_, by rw [performed], rfl⟩, rfl⟩

/-- What follows an accepted command has the same objects, and answers calls in the same way. -/
theorem alike_of_succeeds (accepted : machine.Succeeds (.enqueue queue command waits wantEvent)) :
    machine.store.Alike (machine.perform (.enqueue queue command waits wantEvent)).2.store ∧
      (machine.perform (.enqueue queue command waits wantEvent)).2.halted = false ∧
      (machine.perform (.enqueue queue command waits wantEvent)).2.injection = machine.injection := by
  have injection := (outcome_perform machine (.enqueue queue command waits wantEvent)).injection_eq
  obtain ⟨_, serving, ⟨_, kept⟩ | ⟨effect, carries⟩⟩ := accepts_enqueue_cases accepted
  · exact ⟨kept ▸ .refl machine.store, serving, injection⟩
  · obtain ⟨properties, events, _, finished⟩ := carries.finished
    refine ⟨?_, serving, injection⟩
    rw [finished]
    exact Store.alike_finishCommand (Store.alike_of_effect carries.accepted) properties events

/-- A byte that a command replaces once no injected failure answers in its place. -/
def Overwrites (machine : Machine) (command : Command) (id index : Nat) : Prop :=
  machine.injection.failure? (.enqueue command.kind) = none ∧ machine.store.Replaces command id index

/-- Where other bytes than those that it reads are different, an accepted command is accepted again,
replaces the same bytes by the same, and keeps all others. -/
theorem succeeds_again (moves : command.MovesData) (alike : here.store.Alike there.store)
    (serving : there.halted = false) (injection : there.injection = here.injection)
    (fitting : ∀ id memory, here.store.memory id = .ok memory → (Object.memory memory).WellFormed)
    (read : ∀ id index, command.Reads id index → (there.contents id)[index]? = (here.contents id)[index]?)
    (accepted : here.Succeeds (.enqueue queue command waits wantEvent)) :
    there.Succeeds (.enqueue queue command waits wantEvent) ∧ ∀ id index,
      (here.Overwrites command id index →
        ((there.perform (.enqueue queue command waits wantEvent)).2.contents id)[index]? =
          ((here.perform (.enqueue queue command waits wantEvent)).2.contents id)[index]?) ∧
      (¬ here.Overwrites command id index →
        ((there.perform (.enqueue queue command waits wantEvent)).2.contents id)[index]? =
          (there.contents id)[index]?) := by
  obtain ⟨_, _, ⟨failure, _⟩ | ⟨effect, carries⟩⟩ := accepts_enqueue_cases accepted
  · have again : there.perform (.enqueue queue command waits wantEvent) =
        (.ok { status := 0 }, there.counted (.enqueue queue command waits wantEvent)) :=
      perform_of_failure serving (injection ▸ failure)
    rw [again]
    refine ⟨⟨_, by rw [again], rfl⟩, fun id index => ⟨fun overwrites => ?_, fun _ => rfl⟩⟩
    cases failure.symm.trans overwrites.1
  · obtain ⟨properties, events, found, finished⟩ := carries.finished
    obtain ⟨listed, waiting⟩ := carries.listed
    obtain ⟨echo, repeated, bytes⟩ := Store.repeats_of_moves alike moves fitting read carries.accepted
    obtain ⟨accepts, reached⟩ := @perform_of_found there queue command waits wantEvent _ _ _ serving
      (injection ▸ carries.allowed) (alike.queue found) (alike.waitList waiting) repeated
    refine ⟨accepts, fun id index => ?_⟩
    obtain ⟨new, old⟩ := bytes id index
    simp only [contents, reached, finished, Store.contents_finishCommand]
    exact ⟨fun overwrites => new overwrites.2,
      fun spared => old fun replaces => spared ⟨carries.allowed, replaces⟩⟩

/-- Two commands that move data, are both accepted and do not replace what the other replaces or
reads are accepted in either order, and the memory afterwards is the same. -/
theorem independent_commands_commute (reachable : machine.Reachable) {first second : Command}
    (firstMoves : first.MovesData) (secondMoves : second.MovesData)
    (independent : machine.store.Independent first second) {firstQueue secondQueue : Nat}
    {firstWaits secondWaits : HandleList} {firstWants secondWants : Bool}
    (firstAccepted : machine.Succeeds (.enqueue firstQueue first firstWaits firstWants))
    (secondAccepted : machine.Succeeds (.enqueue secondQueue second secondWaits secondWants)) :
    let early : Request := .enqueue firstQueue first firstWaits firstWants
    let late : Request := .enqueue secondQueue second secondWaits secondWants
    (machine.perform early).2.Succeeds late ∧ (machine.perform late).2.Succeeds early ∧
      ∀ id, (machine.run [.call early, .call late]).contents id =
        (machine.run [.call late, .call early]).contents id := by
  intro early late
  have fitting : ∀ id memory, machine.store.memory id = .ok memory → (Object.memory memory).WellFormed :=
    fun id memory located => reachable.wellFormed (Store.memory_ok_iff.mp located)
  obtain ⟨earlyAlike, earlyServing, earlyInjection⟩ := alike_of_succeeds firstAccepted
  obtain ⟨lateAlike, lateServing, lateInjection⟩ := alike_of_succeeds secondAccepted
  obtain ⟨serving, _⟩ := accepts_enqueue_cases firstAccepted
  have earlyBytes := (succeeds_again firstMoves (.refl machine.store) serving rfl fitting
    (fun _ _ _ => rfl) firstAccepted).2
  have lateBytes := (succeeds_again secondMoves (.refl machine.store) serving rfl fitting
    (fun _ _ _ => rfl) secondAccepted).2
  obtain ⟨lateAgain, lateOverwrites⟩ := succeeds_again secondMoves earlyAlike earlyServing earlyInjection
    fitting (fun id index reads => (earlyBytes id index).2 fun overwrites =>
      independent.unread id index overwrites.2 reads) secondAccepted
  obtain ⟨earlyAgain, earlyOverwrites⟩ := succeeds_again firstMoves lateAlike lateServing lateInjection
    fitting (fun id index reads => (lateBytes id index).2 fun overwrites =>
      independent.reread id index overwrites.2 reads) firstAccepted
  refine ⟨lateAgain, earlyAgain, fun id => List.ext_getElem? fun index => ?_⟩
  show (((machine.perform early).2.perform late).2.contents id)[index]? =
    (((machine.perform late).2.perform early).2.contents id)[index]?
  by_cases earlyReplaces : machine.Overwrites first id index
  · have lateSpares : ¬ machine.Overwrites second id index := fun lateReplaces =>
      independent.apart id index earlyReplaces.2 lateReplaces.2
    rw [(lateOverwrites id index).2 lateSpares, (earlyOverwrites id index).1 earlyReplaces]
  · rw [(earlyOverwrites id index).2 earlyReplaces]
    by_cases lateReplaces : machine.Overwrites second id index
    · exact (lateOverwrites id index).1 lateReplaces
    · rw [(lateOverwrites id index).2 lateReplaces, (lateBytes id index).2 lateReplaces]
      exact (earlyBytes id index).2 earlyReplaces

/-- Writes one of the two columns of an image of four pixels. -/
def column (place : Nat) (pixels : Bytes) : Command :=
  .writeImage (handleOf 4) (some ⟨place, 0, 0⟩) (some ⟨1, 2, 1⟩) 0 0 (some (.ofBytes pixels))

/-- A column has every other byte of the image. -/
theorem index_of_column {place id index : Nat} {pixels : Bytes}
    (replaces : Host.furnished.store.Replaces (column place pixels) id index) :
    index = place ∨ index = 2 + place := by
  have shown : Host.furnished.store.memory (handleOf 4) = .ok ⟨Block.zeros 4, some ⟨2, 2, 1⟩⟩ := rfl
  cases replaces with
  | @image _ _ _ column row byte _ _ _ _ _ located shaped wide high small =>
    cases shown.symm.trans located
    cases shaped
    simp only [ImageShape.index] at wide high small ⊢
    omega

/-- Two columns lie between each other's bytes, and still either can be written first. -/
theorem columns_commute :
    let machine := Host.furnished
    let early : Request := .enqueue (handleOf 2) (column 0 [1, 2]) ⟨0, none⟩ true
    let late : Request := .enqueue (handleOf 2) (column 1 [3, 4]) ⟨0, none⟩ true
    (machine.Reachable ∧ machine.store.Independent (column 0 [1, 2]) (column 1 [3, 4]) ∧
      machine.Succeeds early ∧ machine.Succeeds late) ∧
    (∀ id, (machine.run [.call early, .call late]).contents id =
      (machine.run [.call late, .call early]).contents id) ∧
    (machine.run [.call late, .call early]).contents (handleOf 4) = [1, 3, 2, 4] := by
  intro machine early late
  have independent : machine.store.Independent (column 0 [1, 2]) (column 1 [3, 4]) := by
    constructor
    · intro id index first second
      have left := index_of_column first
      have right := index_of_column second
      omega
    · intro id index _ reads
      cases reads
    · intro id index _ reads
      cases reads
  have earlyAccepted : machine.Succeeds early := ⟨{ handle := handleOf 5 }, rfl, rfl⟩
  have lateAccepted : machine.Succeeds late := ⟨{ handle := handleOf 5 }, rfl, rfl⟩
  obtain ⟨_, _, same⟩ := independent_commands_commute Host.reachable_furnished .image .image independent
    earlyAccepted lateAccepted
  exact ⟨⟨Host.reachable_furnished, independent, earlyAccepted, lateAccepted⟩, same, by decide⟩

end Machine
end Offload.Simulator

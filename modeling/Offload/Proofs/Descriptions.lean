import Offload.Proofs.Filing
import Offload.Proofs.Inventory
import Offload.Proofs.Reach

/-! What the host remembers about an object, next to the object itself. Revisions change what
is in an object, but nothing that its owner remembers about it. -/
namespace Offload.Session
open Host Simulator

/-- A memory object is as its owner remembers it. The pixels of an image are those of the format
where that has a size. -/
structure MemoryDescribed (memory : Host.Memory) (stored : Simulator.Memory) : Prop where
  buffer : ∀ size, memory.size? = some size →
    0 < size ∧ stored.shape? = none ∧ stored.data.size = size
  image : memory.isImage = true → ∃ shape, stored.shape? = some shape ∧
    0 < shape.width ∧ 0 < shape.height ∧
    stored.data.size = shape.width * shape.height * shape.pixel ∧
    ∀ pixel, memory.format?.bind ImageFormat.pixelSize? = some pixel → shape.pixel = pixel

/-- The devices that a context has in the runtime: those that it was made for, as far as the call could
count them. -/
def keptDevices (devices : List Device) : List Nat := (idsOf devices).take (devices.length % halfRange)

/-- An object is as its owner remembers it. About an event nothing is remembered. -/
inductive Item.Describes : Item → Object → Prop where
  | context (context : Context) : Describes (.context context) (.context (keptDevices context.devices))
  | queue {queue : Queue} (declared : queueProperties.isDeclared queue.properties = true) :
      Describes (.queue queue) (.queue queue.properties)
  | memory {memory : Host.Memory} {stored : Simulator.Memory}
      (described : MemoryDescribed memory stored) : Describes (.memory memory) (.memory stored)
  | program (program : Host.Program) (stored : Simulator.Program) :
      Describes (.program program) (.program stored)
  | kernel {kernel : Host.Kernel} {stored : Simulator.Kernel}
      (named : stored.signature.name = kernel.name)
      (bound : stored.arguments.length = stored.signature.parameters.length) :
      Describes (.kernel kernel) (.kernel stored)
  | event (event : Host.Event) (stored : Simulator.Event) : Describes (.event event) (.event stored)
  | bare {kind : ObjectKind} (owned : Owned kind) {object : Object} (same : object.kind = kind) :
      Describes (.bare kind owned) object

theorem isDeclared_queueProperties {bits : UInt64} (known : bits &&& ~~~knownQueueProperties = 0) :
    queueProperties.isDeclared bits = true := beq_iff_eq.mpr known

theorem MemoryDescribed.of_buffer {data : Block} (owned : Owned .memory) (filled : 0 < data.size) :
    MemoryDescribed ⟨owned, .buffer data.size⟩ { data := data } where
  buffer size remembered := by
    cases remembered
    exact ⟨filled, rfl, rfl⟩
  image impossible := by cases impossible

/-- An image has the pixels of its format, also where the codes of the format went through. -/
theorem MemoryDescribed.of_image {data : Block} {shape : ImageShape} {format : ImageFormat}
    (owned : Owned .memory) (wide : 0 < shape.width) (high : 0 < shape.height)
    (extent : data.size = shape.width * shape.height * shape.pixel)
    (sized : (ImageFormat.ofRaw format.toRaw).pixelSize? = some shape.pixel) :
    MemoryDescribed ⟨owned, .image format⟩ { data := data, shape? := some shape } where
  buffer size impossible := by cases impossible
  image _ := by
    refine ⟨shape, rfl, wide, high, extent, fun pixel known => ?_⟩
    exact Option.some.inj (sized.symm.trans (ImageFormat.pixelSize?_ofRaw known))

private theorem MemoryDescribed.revised {memory : Host.Memory} {stored : Simulator.Memory} {data : Block}
    (described : MemoryDescribed memory stored) (sized : data.size = stored.data.size) :
    MemoryDescribed memory { stored with data := data } where
  buffer size remembered := by
    obtain ⟨filled, flat, same⟩ := described.buffer size remembered
    exact ⟨filled, flat, sized.trans same⟩
  image pictured := by
    obtain ⟨shape, shaped, wide, high, extent, pixel⟩ := described.image pictured
    exact ⟨shape, shaped, wide, high, sized.trans extent, pixel⟩

namespace Item.Describes
variable {item : Item} {object : Object}

private theorem revised {revision : Object} (describes : item.Describes object)
    (revises : Revises object revision) : item.Describes revision := by
  cases describes with
  | context | queue => cases revises
  | memory described =>
    cases revises with
    | memory sized => exact .memory (described.revised sized)
  | program program =>
    cases revises with
    | compiled | rejected => exact .program program _
  | kernel named bound =>
    cases revises with
    | kernel => exact .kernel named (List.length_set.trans bound)
  | event event =>
    cases revises with
    | event => exact .event event _
  | bare owned same => exact .bare owned (revises.kind_eq.trans same)

private theorem descends {later : Object} (describes : item.Describes object)
    (descends : Descends object later) : item.Describes later := by
  induction descends with
  | same => exact describes
  | revised _ revises ih => exact ih.revised revises

theorem context_eq {context : Context} (describes : (Item.context context).Describes object) :
    object = .context (keptDevices context.devices) := by
  cases describes
  rfl

end Item.Describes

/-- What a slot holds is in the store, and is as the slot describes it. -/
def Slot.Agrees (store : Store) (slot : Slot) : Prop :=
  ∀ owner ∈ slot.holding,
    ∃ object, store.objects.find? owner.2 = some object ∧ slot.item.Describes object

namespace Slot.Agrees
variable {slot : Slot} {before after : Store}

/-- What an owner holds agrees when the object that is found is as it is described. -/
theorem of_found {kind : ObjectKind} {owned : Owned kind} {object : Object}
    (owner : slot.item.owner? = some ⟨kind, owned⟩)
    (found : before.objects.find? owned.handle = some object) (describes : slot.item.Describes object) :
    slot.Agrees before := by
  intro entry held
  rw [Slot.holding, owner] at held
  rw [eq_of_mem_holding held]
  exact ⟨object, found, describes⟩

theorem of_bare (bare : slot.item.owner? = none) : slot.Agrees before := by
  intro owner held
  rw [Slot.holding, bare] at held
  cases held

/-- A slot agrees for as long as no object is taken away. -/
theorem kept (agrees : slot.Agrees before) (keeps : Keeps before after) : slot.Agrees after := by
  intro owner held
  obtain ⟨object, found, describes⟩ := agrees owner held
  obtain ⟨later, present, descends⟩ := keeps owner.2 object found
  exact ⟨later, present, describes.descends descends⟩

end Slot.Agrees

/-- A queue is for one of the devices of its context, a program for all of them. -/
def Item.Stems (origin : Context → Prop) : Item → Prop
  | .queue item => ∃ context, origin context ∧ item.device ∈ context.devices
  | .program item => ∃ context, origin context ∧ item.devices = context.devices
  | _ => True

theorem Item.Stems.mono {item : Item} {origin other : Context → Prop} (stems : item.Stems origin)
    (weaker : ∀ context, origin context → other context) : item.Stems other := by
  cases item with
  | queue | program =>
    obtain ⟨context, source, devices⟩ := stems
    exact ⟨context, weaker context source, devices⟩
  | _ => trivial

end Offload.Session

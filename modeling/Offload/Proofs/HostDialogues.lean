import Offload.Proofs.Dialogues

/-! The operations of owners as dialogues. Each keeps to the manners of its owners: its calls are
made on the objects of owners that may be used, and it runs into no fault of its own. -/
namespace Offload.Session
open Host

/-- A new image is refused on sight, or asked for with flags and host memory that result. -/
theorem newImage_cases (driver : Driver World) (context : Context) (flags : UInt64) (format : ImageFormat)
    (descriptor : ImageDescriptor) (backing : Option Memory) (data : Option Block) :
    (∃ error, context.newImage driver flags format descriptor backing data = Action.refuse error) ∨
      ∃ given host, context.newImage driver flags format descriptor backing data =
        context.newImageFrom driver given format descriptor backing host := by
  cases data with
  | none => exact Or.inr ⟨flags, none, rfl⟩
  | some data =>
    unfold Context.newImage
    dsimp only
    split
    · exact Or.inl ⟨_, rfl⟩
    · split
      · exact Or.inl ⟨_, rfl⟩
      · split
        · exact Or.inl ⟨_, rfl⟩
        · exact Or.inr ⟨_, _, rfl⟩

namespace Dialogue
variable {α β : Type} {manners : Manners}

section discovery
variable (route : Route)

theorem platforms : Dialogue manners (Platform.list route.driver) := by
  refine bind (demand route (.freely rfl rfl rfl rfl)) fun response => ?_
  dsimp only
  split
  · exact bind (note (Or.inr rfl)) fun _ => done _
  · exact done _

theorem platformText (platform : Platform) (parameter : PlatformParameter) :
    Dialogue manners (platform.text route.driver parameter) :=
  string route (fun _ => .freely rfl rfl rfl rfl) 1024

theorem devices (platform : Option Platform) (types : UInt64) :
    Dialogue manners (Device.list route.driver platform types) := by
  refine bind (demand route (.freely rfl rfl rfl rfl)) fun response => ?_
  dsimp only
  split
  · exact bind (note (Or.inr rfl)) fun _ => done _
  · exact done _

variable (device : Device)

theorem deviceString (parameter : DeviceParameter) (size : Nat) :
    Dialogue manners ((device.question route.driver parameter).string size) :=
  string route (fun _ => .freely rfl rfl rfl rfl) size

theorem deviceNumber (parameter : DeviceParameter) (type : ScalarType) :
    Dialogue manners (device.number route.driver parameter type) :=
  value route (fun _ => .freely rfl rfl rfl rfl) type

theorem deviceFlags (parameter : DeviceParameter) :
    Dialogue manners (device.flags route.driver parameter) :=
  bind (deviceNumber route device parameter .uint64) fun _ => done _

private theorem workItemSizes : Dialogue manners (device.workItemSizes route.driver) := by
  refine value_bind route (fun _ => .freely rfl rfl rfl rfl) .uint32 fun dimensions held => ?_
  refine array route (fun _ => .freely rfl rfl rfl rfl) ?_
  have small : dimensions < 0x100000000 := held.2
  simp only [ScalarType.width, memoryLimit]
  omega

private theorem halfPrecision : Dialogue manners (device.halfPrecision route.driver) :=
  bind (outcome (deviceFlags route device .halfPrecision)) fun result => match result with
    | .ok _ => done _
    | .error _ => done _

theorem deviceProperty (parameter : DeviceParameter) :
    Dialogue manners (device.property route.driver parameter) := by
  cases parameter with
  | name | vendor | builtInKernels | extensions | languageVersion | profile | version
  | driverVersion => exact map (deviceString route device _ 1024)
  | addressBits | globalCacheLineSize | maxClockFrequency | maxComputeUnits | maxConstantArguments
  | maxReadImageArguments | maxSamplers | maxWorkItemDimensions | maxWriteImageArguments
  | baseAddressAlignment | vendorId => exact map (deviceNumber route device _ .uint32)
  | image2DMaxWidth | image2DMaxHeight | image3DMaxWidth | image3DMaxHeight | image3DMaxDepth
  | maxParameterSize | maxWorkGroupSize | globalMemorySize | localMemorySize | maxAllocationSize
  | globalCacheSize | maxConstantBufferSize => exact map (deviceNumber route device _ .uint64)
  | available | compilerAvailable | littleEndian | errorCorrection | unifiedMemory | imageSupport
  | localMemoryKind | globalCacheKind =>
    exact bind (deviceNumber route device _ .uint32) fun _ => done _
  | maxWorkItemSizes => exact map (workItemSizes route device)
  | deviceType | singlePrecision | doublePrecision | executionCapabilities | queueProperties =>
    exact map (deviceFlags route device _)
  | halfPrecision => exact map (halfPrecision route device)
  | platform => exact bind (deviceNumber route device _ .uint64) fun _ => done _

end discovery

/-- The owners of a list may be used. -/
abbrev AllHeld {kind : ObjectKind} (manners : Manners) (owners : List (Owned kind)) : Prop :=
  ∀ owned ∈ owners, manners.uses owned.handle

theorem useAll {kind : ObjectKind} {owners : List (Owned kind)} (held : AllHeld manners owners) :
    Dialogue manners (Host.useAll (σ := World) owners) := by
  induction owners with
  | nil => exact done []
  | cons owned rest ih =>
    obtain ⟨first, others⟩ := List.forall_mem_cons.mp held
    exact use first (bind (ih others) fun _ => done _)

section kernels
variable (route : Route) {kernel : Kernel} (held : manners.uses kernel.owned.handle)
include held

theorem functionName : Dialogue manners (kernel.functionName route.driver) :=
  use held (string route (fun _ => .upon (Or.inr rfl) rfl (Or.inr rfl) rfl held) 256)

theorem argumentCount : Dialogue manners (kernel.argumentCount route.driver) :=
  use held (value route (fun _ => .upon (Or.inr rfl) rfl (Or.inr rfl) rfl held) .uint32)

theorem workGroup (device : Option Device) (parameter : WorkGroupParameter) :
    Dialogue manners (kernel.workGroup route.driver device parameter) :=
  use held (value route (fun _ => .upon (Or.inr rfl) rfl (Or.inr rfl) rfl held) .uint64)

theorem bindArgument (index size : Nat) (value : Option Bytes) :
    Dialogue manners (kernel.bind route.driver index size value) :=
  use held (bind (demand route (.upon (Or.inr rfl) rfl (Or.inr rfl) rfl held)) fun _ => done _)

theorem bindMemory (index : Nat) {memory : Memory} (bound : manners.uses memory.owned.handle) :
    Dialogue manners (kernel.bindMemory route.driver index memory) :=
  use bound (bindArgument route held index 8 _)

end kernels

section events
variable (route : Route) {event : Event}

theorem waitForAll {events : List Event} (held : AllHeld manners (events.map Event.owned)) :
    Dialogue manners (Event.waitForAll route.driver events) := by
  unfold Event.waitForAll
  split
  · exact refuse _
  · exact bind (useAll held) fun _ => bind (demand route (.freely rfl rfl rfl rfl)) fun _ => done _

variable (held : manners.uses event.owned.handle)
include held

theorem status : Dialogue manners (event.status route.driver) :=
  use held (bind (value route (fun _ => .freely rfl rfl rfl rfl) .int32) fun _ => done _)

theorem settle (status : Int) : Dialogue manners (event.settle route.driver status) :=
  use held (bind (demand route (.freely rfl rfl rfl rfl)) fun _ => done _)

theorem stamp (moment : ProfilingStamp) : Dialogue manners (event.stamp route.driver moment) :=
  use held (value route (fun _ => .freely rfl rfl rfl rfl) .uint64)

end events

theorem withoutNul (text : String) : Dialogue manners (Host.withoutNul (σ := World) text) := by
  unfold Host.withoutNul
  split
  · exact failed _
  · exact done _

section programs
variable (route : Route) {program : Program} (held : manners.uses program.owned.handle)

section
variable (measures : manners.Measures)
include held measures

theorem buildLog (device : Device) : Dialogue manners (program.buildLog route.driver device) :=
  use held (longString route measures (fun _ => .upon (Or.inr rfl) rfl (Or.inr rfl) rfl held) 2048)

private theorem buildFailure : Dialogue manners (program.buildFailure route.driver) := by
  unfold Program.buildFailure
  split
  · exact done _
  · refine bind (outcome (buildLog route held measures _)) fun result => ?_
    cases result with
    | error error => exact bind (note (Or.inr rfl)) fun _ => done _
    | ok log =>
      dsimp only
      split <;> exact bind (note (Or.inr rfl)) fun _ => done _

theorem build (devices : List Device) (options : String) :
    Dialogue manners (program.build route.driver devices options) := by
  refine bind (withoutNul options) fun _ => use held <| noted (Or.inr rfl) <|
    called route (.upon (Or.inr rfl) rfl (Or.inr rfl) rfl held) fun response _ => ?_
  split
  · exact done _
  · exact bind (buildFailure route held measures) fun _ => failed _
  · exact failed _

end

include held

theorem buildStatus (device : Device) : Dialogue manners (program.buildStatus route.driver device) :=
  bind (use held (value route (fun _ => .upon (Or.inr rfl) rfl (Or.inr rfl) rfl held) .int32)) fun _ => done _

theorem newKernel (makes : manners.makes) (name : String) :
    Dialogue manners (program.newKernel route.driver name) :=
  bind (withoutNul name) fun _ => use held <|
    bind (obtain route (.upon (Or.inl makes) rfl (Or.inr rfl) rfl held)) fun _ =>
      bind (adopt makes .kernel _) fun _ => done _

end programs

section contexts
variable (route : Route) (makes : manners.makes)

theorem allWithoutNul (texts : List String) :
    Dialogue manners (Context.allWithoutNul (σ := World) texts) := by
  induction texts with
  | nil => exact done _
  | cons text rest ih => exact bind (withoutNul text) fun _ => ih

variable {context : Context} (held : manners.uses context.owned.handle) (flags : UInt64)

theorem imageFormats (held : manners.uses context.owned.handle) (kind : Coded MemoryKind) :
    Dialogue manners (context.imageFormats route.driver flags kind) :=
  use held (bind (demand route (.upon (Or.inr rfl) rfl (Or.inr rfl) rfl held)) fun _ => done _)

include makes

theorem newContext (devices : List Device) : Dialogue manners (Context.create route.driver devices) := by
  unfold Context.create
  split
  · exact failed _
  · exact bind (obtain route ⟨Or.inl makes, Or.inr rfl, Or.inr rfl, fun _ member => nomatch member⟩) fun _ =>
      bind (adopt makes .context _) fun _ => done _

include held

theorem newQueue (device : Device) (properties : UInt64) :
    Dialogue manners (context.newQueue route.driver device properties) :=
  use held <| bind (obtain route (.upon (Or.inl makes) rfl (Or.inr rfl) rfl held)) fun _ =>
    bind (adopt makes .queue _) fun _ => done _

theorem newUserEvent : Dialogue manners (context.newUserEvent route.driver) :=
  use held <| bind (obtain route (.upon (Or.inl makes) rfl (Or.inr rfl) rfl held)) fun _ =>
    bind (adopt makes .event _) fun _ => done _

variable (overreaches : manners.overreaches)
include overreaches

theorem newProgram (sources : List String) :
    Dialogue manners (context.newProgram route.driver sources) :=
  bind (allWithoutNul sources) fun _ => use held <|
    bind (obtain route (.upon (Or.inl makes) rfl (Or.inl overreaches) rfl held)) fun _ =>
      bind (adopt makes .program _) fun _ => done _

theorem newBufferFrom (size : Nat) (host : Option Block) :
    Dialogue manners (context.newBufferFrom route.driver flags size host) :=
  use held <| bind (obtain route (.upon (Or.inl makes) rfl (Or.inl overreaches) rfl held)) fun _ =>
    bind (note (Or.inr rfl)) fun _ => bind (adopt makes .memory _) fun _ => done _

theorem newBufferOf (type : ScalarType) (values : List Int) :
    Dialogue manners (context.newBufferOf route.driver flags type values) := by
  unfold Context.newBufferOf
  split
  · exact refuse _
  · exact newBufferFrom route makes held _ overreaches _ _

theorem newImageFrom (format : ImageFormat) (descriptor : ImageDescriptor) {backing : Option Memory}
    (behind : ∀ memory ∈ backing, manners.uses memory.owned.handle) (host : Option Block) :
    Dialogue manners (context.newImageFrom route.driver flags format descriptor backing host) := by
  have backed : Dialogue manners (Context.backingHandle (σ := World) backing) := by
    cases backing with
    | none => exact done 0
    | some memory =>
      exact Dialogue.held (behind memory rfl)
  exact bind backed fun _ => use held <|
    bind (obtain route (.upon (Or.inl makes) rfl (Or.inl overreaches) rfl held)) fun _ =>
      bind (note (Or.inr rfl)) fun _ => bind (adopt makes .memory _) fun _ => done _

theorem newImage (format : ImageFormat) (descriptor : ImageDescriptor) {backing : Option Memory}
    (behind : ∀ memory ∈ backing, manners.uses memory.owned.handle) (data : Option Block) :
    Dialogue manners (context.newImage route.driver flags format descriptor backing data) := by
  rcases newImage_cases route.driver context flags format descriptor backing data with
    ⟨error, refused⟩ | ⟨given, host, asked⟩
  · exact refused ▸ refuse error
  · exact asked ▸ newImageFrom route makes held given overreaches format descriptor behind host

omit makes held overreaches in
private theorem unbacked : ∀ memory ∈ (none : Option Memory), manners.uses memory.owned.handle :=
  fun _ impossible => (Option.not_mem_none _ impossible).elim

/-- Uploading a picture runs into a fault of its own only where the picture cannot be read. -/
theorem newImageOf {bitmap : Bitmap}
    (readable : bitmap.layout = .other → (∃ colors, bitmap.toRgba8 = .ok colors) ∨ manners.faults) :
    Dialogue manners (context.newImageOf route.driver flags bitmap) := by
  unfold Context.newImageOf
  dsimp only
  split
  · exact newImage route makes held flags overreaches _ _ unbacked _
  · exact newImage route makes held flags overreaches _ _ unbacked _
  · rename_i other
    refine bind ?_ fun _ => newImage route makes held flags overreaches _ _ unbacked _
    rcases readable other with ⟨colors, read⟩ | allowed
    · rw [read]
      exact done colors
    · cases bitmap.toRgba8 with
      | ok colors => exact done colors
      | error found => exact faulted allowed

end contexts

section queues
variable (route : Route) {queue : Queue} (held : manners.uses queue.owned.handle)
include held

theorem finish : Dialogue manners (queue.finish route.driver) :=
  use held (bind (demand route (.upon (Or.inr rfl) rfl (Or.inr rfl) rfl held)) fun _ => done _)

theorem flush : Dialogue manners (queue.flush route.driver) :=
  use held (bind (demand route (.upon (Or.inr rfl) rfl (Or.inr rfl) rfl held)) fun _ => done _)

/-- Forming a command comes to one that suits. -/
def Forms (manners : Manners) (command : Action World Command) (suits : Command → Prop) : Prop :=
  ∀ next : Command → Action World Submission,
    (∀ value, suits value → Dialogue manners (next value)) → Dialogue manners (command >>= next)

omit held in
theorem Forms.constant {suits : Command → Prop} {command : Command} (suited : suits command) :
    Forms manners (pure command) suits := by
  intro next rest
  rw [pure_bind]
  exact rest command suited

omit held in
/-- A command whose arguments name one object. -/
theorem Forms.naming {suits : Command → Prop} {kind : ObjectKind} {owned : Owned kind}
    (named : manners.uses owned.handle) {command : Nat → Command} (suited : suits (command owned.handle)) :
    Forms manners (do pure (command (← owned.use))) suits := by
  intro next rest
  rw [bind_assoc]
  exact use named (Forms.constant suited next rest)

variable {waits : List Event} (waited : AllHeld manners (waits.map Event.owned)) (makes : manners.makes)
include waited makes

/-- What is submitted is a command with which the queue may be called. -/
theorem submit {command : Action World Command} {suits : Command → Prop}
    (formed : Forms manners command suits)
    (allowed : ∀ value, suits value → ∀ list, manners.Asks (.enqueue queue.owned.handle value list true)) :
    Dialogue manners (queue.submit route.driver waits command) := by
  refine bind (useAll waited) fun events => use held <| formed _ fun value suited =>
    called route (allowed value suited _) fun response _ => ?_
  split
  · exact done _
  · exact bind (adopt makes .event _) fun _ => done _

theorem submitData {command : Action World Command} (formed : Forms manners command isData) :
    Dialogue manners (queue.submit route.driver waits command) :=
  submit route held waited makes formed fun _ data _ => .enqueue makes data held _

theorem enqueue {command : Action World Command} (formed : Forms manners command isData) :
    Dialogue manners (queue.enqueue route.driver waits command) :=
  bind (submitData route held waited makes formed) fun _ => ofExcept _

theorem marker : Dialogue manners (queue.marker route.driver waits) :=
  enqueue route held waited makes (.constant trivial)

theorem barrier : Dialogue manners (queue.barrier route.driver waits) :=
  enqueue route held waited makes (.constant trivial)

theorem copy {source target : Memory} (taken : manners.uses source.owned.handle)
    (given : manners.uses target.owned.handle) (sourceOffset targetOffset size : Nat) :
    Dialogue manners (queue.copy route.driver source target sourceOffset targetOffset size waits) :=
  enqueue route held waited makes fun next rest => by
    rw [bind_assoc]
    exact use taken (Forms.naming given trivial next rest)

variable {memory : Memory} (named : manners.uses memory.owned.handle)
include named

theorem write (offset size : Nat) (data : Option Block) :
    Dialogue manners (queue.write route.driver memory offset size data waits) :=
  enqueue route held waited makes (.naming named trivial)

theorem read (offset size : Nat) (target : Option Block) :
    Dialogue manners (queue.read route.driver memory offset size target waits) :=
  bind (submitData route held waited makes (.naming named trivial)) fun _ => done _

theorem fill (pattern : Bytes) (offset size : Nat) :
    Dialogue manners (queue.fill route.driver memory pattern offset size waits) :=
  enqueue route held waited makes (.naming named trivial)

theorem readImageInto (region : ImageRegion) (target : Option Block) :
    Dialogue manners (queue.readImageInto route.driver memory region target waits) :=
  bind (submitData route held waited makes (.naming named trivial)) fun _ => done _

theorem writeImageFrom (region : ImageRegion) (data : Option Block) :
    Dialogue manners (queue.writeImageFrom route.driver memory region data waits) :=
  enqueue route held waited makes (.naming named trivial)

theorem readImage (region : ImageRegion) (target : Block) :
    Dialogue manners (queue.readImage route.driver memory region target waits) := by
  unfold Queue.readImage
  split
  · exact done _
  · exact readImageInto route held waited makes named region (some target)

theorem writeImage (region : ImageRegion) (data : Block) :
    Dialogue manners (queue.writeImage route.driver memory region data waits) := by
  unfold Queue.writeImage
  split
  · exact failed _
  · exact writeImageFrom route held waited makes named region (some data)

omit named in
theorem dispatch (overreaches : manners.overreaches) {kernel : Kernel}
    (carried : manners.uses kernel.owned.handle) (globals : List Nat)
    (offsets locals : Option (List Nat)) :
    Dialogue manners (queue.dispatch route.driver kernel globals offsets locals waits) := by
  unfold Queue.dispatch
  dsimp only
  split
  · exact refuse _
  · split
    · exact refuse _
    · split
      · exact refuse _
      · refine noted (Or.inr rfl)
          (bind (submit route held waited makes (.naming carried rfl) ?_) fun _ => ofExcept _)
        rintro _ rfl list
        exact ⟨Or.inl makes, Or.inr rfl, Or.inl overreaches,
          List.forall_mem_cons.mpr ⟨held, List.forall_mem_singleton.mpr carried⟩⟩

end queues

end Dialogue
end Offload.Session

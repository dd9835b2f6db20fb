import Offload.DeviceTraits
import Offload.Driver.Parameter
import Offload.Flags
import Offload.Host.Query

/-! Listing platforms and devices, and asking them about themselves. Platforms and devices
belong to the runtime and are never given back. -/
namespace Offload.Host

structure Platform where
  id : Nat
  deriving DecidableEq, Repr

structure Device where
  id : Nat
  deriving DecidableEq, Repr

/-- The part of a listing that is visible: as many entries as were reported, but no more
than the buffer had. Entries that the driver did not store are blank. -/
def visible {α : Type} (limit count : Nat) (blank : α) (listed : List α) : List α :=
  (listed ++ List.replicate limit blank).take (min count limit)

theorem length_visible {α : Type} (limit count : Nat) (blank : α) (listed : List α) :
    (visible limit count blank listed).length = min count limit := by
  simp only [visible, List.length_take, List.length_append, List.length_replicate]
  omega

namespace Platform
variable {σ : Type}

/-- Lists the platforms of a driver. -/
def list (driver : Driver σ) : Action σ (List Platform) := do
  let response ← Action.demand driver (.platformIds platformLimit true true)
  let count := response.reported.getD 0
  if count > platformLimit then Action.note (.platformsHidden count)
  pure ((visible platformLimit count 0 response.ids).map Platform.mk)

/-- What a platform says about itself. -/
def text (driver : Driver σ) (platform : Platform) (parameter : PlatformParameter) : Action σ String :=
  (Question.info driver (.platform platform.id) parameter.code).string 1024

def written (platform : Platform) : String := "Platform(" ++ Text.address platform.id ++ ")"

end Platform

/-- A property of a device. -/
inductive DeviceValue where
  | text (text : String)
  | number (value : Int)
  | truth (value : Bool)
  | sizes (values : List Int)
  | flags (family : FlagFamily) (bits : UInt64)
  | localMemory (kind : Coded LocalMemoryKind)
  | cache (kind : Coded CacheKind)
  | platform (platform : Platform)

namespace Device
variable {σ : Type}

/-- Lists the devices of some types on a platform, or on the default platform. -/
def list (driver : Driver σ) (platform : Option Platform) (types : UInt64) :
    Action σ (List Device) := do
  let id := match platform with
    | some platform => platform.id
    | none => 0
  let response ← Action.demand driver (.deviceIds id types deviceLimit true true)
  let count := response.reported.getD 0
  if count > deviceLimit then Action.note (.devicesHidden count)
  pure ((visible deviceLimit count 0 response.ids).map Device.mk)

def question (driver : Driver σ) (device : Device) (parameter : DeviceParameter) : Question σ :=
  Question.info driver (.device device.id) parameter.code

def number (driver : Driver σ) (device : Device) (parameter : DeviceParameter) (type : ScalarType) :
    Action σ Int :=
  (device.question driver parameter).value type

def flags (driver : Driver σ) (device : Device) (parameter : DeviceParameter) :
    Action σ UInt64 := do
  let bits ← device.number driver parameter .uint64
  pure (UInt64.ofNat bits.toNat)

/-- The limits of work items in each dimension, as many as the device has dimensions. -/
def workItemSizes (driver : Driver σ) (device : Device) : Action σ (List Int) := do
  let dimensions ← device.number driver .maxWorkItemDimensions .uint32
  (device.question driver .maxWorkItemSizes).array .uint64 dimensions.toNat

/-- Half precision is optional: a device that refuses the question has no features. -/
def halfPrecision (driver : Driver σ) (device : Device) : Action σ UInt64 := do
  match ← Action.outcome (device.flags driver .halfPrecision) with
  | .ok bits => pure bits
  | .error _ => pure 0

/-- Asks a device for one of its properties. -/
def property (driver : Driver σ) (device : Device) (parameter : DeviceParameter) :
    Action σ DeviceValue :=
  match parameter with
  | .name | .vendor | .builtInKernels | .extensions | .languageVersion | .profile | .version
  | .driverVersion => .text <$> (device.question driver parameter).string 1024
  | .addressBits | .globalCacheLineSize | .maxClockFrequency | .maxComputeUnits
  | .maxConstantArguments | .maxReadImageArguments | .maxSamplers | .maxWorkItemDimensions
  | .maxWriteImageArguments | .baseAddressAlignment | .vendorId =>
    .number <$> device.number driver parameter .uint32
  | .image2DMaxWidth | .image2DMaxHeight | .image3DMaxWidth | .image3DMaxHeight | .image3DMaxDepth
  | .maxParameterSize | .maxWorkGroupSize | .globalMemorySize | .localMemorySize
  | .maxAllocationSize | .globalCacheSize | .maxConstantBufferSize =>
    .number <$> device.number driver parameter .uint64
  | .available | .compilerAvailable | .littleEndian | .errorCorrection | .unifiedMemory
  | .imageSupport => do
    let value ← device.number driver parameter .uint32
    pure (.truth (value != 0))
  | .maxWorkItemSizes => .sizes <$> device.workItemSizes driver
  | .deviceType => .flags deviceTypes <$> device.flags driver parameter
  | .singlePrecision | .doublePrecision => .flags floatFeatures <$> device.flags driver parameter
  | .halfPrecision => .flags floatFeatures <$> device.halfPrecision driver
  | .executionCapabilities => .flags executionCapabilities <$> device.flags driver parameter
  | .queueProperties => .flags queueProperties <$> device.flags driver parameter
  | .localMemoryKind => do
    let code ← device.number driver parameter .uint32
    pure (.localMemory (.ofRaw code))
  | .globalCacheKind => do
    let code ← device.number driver parameter .uint32
    pure (.cache (.ofRaw code))
  | .platform => do
    let id ← device.number driver parameter .uint64
    pure (.platform ⟨id.toNat⟩)

def written (device : Device) : String := "Device(" ++ Text.address device.id ++ ")"

end Device

def writtenDevices (devices : List Device) : String := Text.writtenList (devices.map Device.written)

/-- The ids of devices, as native calls take them. -/
def idsOf (devices : List Device) : List Nat := devices.map Device.id

end Offload.Host

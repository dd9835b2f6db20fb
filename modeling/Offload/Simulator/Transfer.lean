import Offload.Simulator.Store

/-! The effect of data commands on memory objects. A command either is refused or says
which host bytes it stores and which memory object gets which new bytes; nothing else of
the store can change. -/
namespace Offload.Simulator

/-- What a command does: pieces of host memory it stores, and the new memory of at most
one memory object. -/
structure Effect where
  writes : List (Nat × Block) := []
  change : Option (Nat × Block) := none
  deriving DecidableEq, Repr

namespace Store

/-- The buffer of a handle, if the range lies inside it. Images have no byte ranges. -/
def bufferRange (store : Store) (id offset size : Nat) : Except Refusal Memory := do
  let memory ← store.memory id
  require memory.shape?.isNone .invalidMemObject
  require (offset + size ≤ memory.data.size) .invalidValue
  .ok memory

def readBuffer (store : Store) (buffer offset size : Nat) (target : Bool) : Except Refusal Effect := do
  let memory ← store.bufferRange buffer offset size
  require target .invalidValue
  .ok { writes := [(0, memory.data.window offset size)] }

def writeBuffer (store : Store) (buffer offset size : Nat) (data : Option Block) :
    Except Refusal Effect := do
  let memory ← store.bufferRange buffer offset size
  match data with
  | none => refuse .invalidValue
  | some host => .ok { change := some (buffer, memory.data.overwrite offset (host.read 0 size)) }

/-- Whether two ranges of the same size share a byte. -/
def overlaps (first second size : Nat) : Bool := first < second + size && second < first + size

def copyBuffer (store : Store) (source target sourceOffset targetOffset size : Nat) :
    Except Refusal Effect := do
  let sourceMemory ← store.bufferRange source sourceOffset size
  let targetMemory ← store.bufferRange target targetOffset size
  require (!(source == target && overlaps sourceOffset targetOffset size)) .memCopyOverlap
  let copied := sourceMemory.data.window sourceOffset size
  .ok { change := some (target, targetMemory.data.overwrite targetOffset copied) }

def isPowerOfTwo (value : Nat) : Bool := value != 0 && 1 <<< value.log2 == value

def fillBuffer (store : Store) (buffer : Nat) (pattern : Option Bytes)
    (patternSize offset size : Nat) : Except Refusal Effect := do
  let memory ← store.bufferRange buffer offset size
  match pattern with
  | none => refuse .invalidValue
  | some host =>
    require (isPowerOfTwo patternSize && patternSize ≤ 128 && offset % patternSize == 0 &&
      size % patternSize == 0) .invalidValue
    let filled := Block.tiled (host.read 0 patternSize) size
    .ok { change := some (buffer, memory.data.overwrite offset filled) }

end Store

/-- Origin and extent of a transfer in a two-dimensional image. -/
def imageWindow (origin extent : Option Triple) : Except Refusal (Triple × Triple) :=
  match origin, extent with
  | some origin, some extent =>
    if origin.z = 0 ∧ extent.z = 1 then .ok (origin, extent) else refuse .invalidValue
  | _, _ => refuse .invalidValue

/-- The rows that a transfer moves, if the rectangle lies inside the image. -/
def imageRows (memory : Memory) (origin extent : Triple) (rowPitch : Nat) : Except Refusal RowPlan :=
  match memory.shape? with
  | none => refuse .invalidMemObject
  | some shape =>
    if origin.x + extent.x > shape.width ∨ origin.y + extent.y > shape.height then
      refuse .invalidValue
    else
      let tight := extent.x * shape.pixel
      if rowPitch ≠ 0 ∧ rowPitch < tight then refuse .invalidValue
      else .ok {
        count := extent.y
        length := tight
        hostPitch := if rowPitch = 0 then tight else rowPitch
        deviceStart := origin.y * (shape.width * shape.pixel) + origin.x * shape.pixel
        devicePitch := shape.width * shape.pixel }

namespace Store

def readImage (store : Store) (image : Nat) (origin extent : Option Triple) (rowPitch : Nat)
    (target : Bool) : Except Refusal Effect := do
  let (origin, extent) ← imageWindow origin extent
  let memory ← store.memory image
  let plan ← imageRows memory origin extent rowPitch
  require target .invalidValue
  .ok { writes := plan.fetch memory.data }

def writeImage (store : Store) (image : Nat) (origin extent : Option Triple) (rowPitch : Nat)
    (data : Option Block) : Except Refusal Effect := do
  let (origin, extent) ← imageWindow origin extent
  let memory ← store.memory image
  let plan ← imageRows memory origin extent rowPitch
  match data with
  | none => refuse .invalidValue
  | some host => .ok { change := some (image, memory.data.patch (plan.upload host)) }

/-- The store after the change of an effect. -/
def apply (store : Store) (effect : Effect) : Store :=
  match effect.change with
  | none => store
  | some (id, data) =>
    match store.memory id with
    | .ok memory => store.replace id (.memory { memory with data := data })
    | .error _ => store

end Store
end Offload.Simulator

import Offload.Host.Compilation
import Offload.Host.Completion

/-! Command queues. Every command takes a wait-list, which is handed over in the given
order, and yields the event of the command. -/
namespace Offload.Host

structure Queue where
  owned : Owned .queue
  device : Device
  properties : UInt64
  deriving DecidableEq, Repr

/-- A command as the driver answered it: the pieces of host memory it replaced, which stay
replaced also when the answer is an error. -/
structure Submission where
  writes : List (Nat × Block)
  outcome : Except CallError Event

/-- Host memory after a reading command, and how the command went. -/
structure Reading where
  memory : Block
  outcome : Except CallError Event

def Submission.into (submission : Submission) (memory : Block) : Reading :=
  ⟨memory.patch submission.writes, submission.outcome⟩

namespace Queue
variable {σ : Type}

def finish (driver : Driver σ) (queue : Queue) : Action σ Unit := do
  let handle ← queue.owned.use
  let _ ← Action.demand driver (.finish handle)

def flush (driver : Driver σ) (queue : Queue) : Action σ Unit := do
  let handle ← queue.owned.use
  let _ ← Action.demand driver (.flush handle)

/-- Puts a command into the queue. The handles of the wait-list are taken first, then that
of the queue and those of the command. -/
def submit (driver : Driver σ) (queue : Queue) (waits : List Event)
    (command : Action σ Command) : Action σ Submission := do
  let events ← Event.handles waits
  let handle ← queue.owned.use
  let command ← command
  let response ← Action.call driver (.enqueue handle command (.ofList events) true)
  match checkHandle response.status response.handle with
  | .error error => pure ⟨response.writes, .error error⟩
  | .ok event => do
    let owned ← Owned.adopt .event event
    pure ⟨response.writes, .ok ⟨owned⟩⟩

/-- Puts a command into the queue that stores nothing in host memory. -/
def enqueue (driver : Driver σ) (queue : Queue) (waits : List Event) (command : Action σ Command) :
    Action σ Event := do
  Action.ofExcept (← queue.submit driver waits command).outcome

/-- Writes `size` bytes of host memory to a buffer. -/
def write (driver : Driver σ) (queue : Queue) (buffer : Memory) (offset size : Nat)
    (data : Option Block) (waits : List Event) : Action σ Event :=
  queue.enqueue driver waits do
    pure (.writeBuffer (← buffer.owned.use) offset size data)

/-- Writes numbers to a buffer. -/
def writeValues (driver : Driver σ) (queue : Queue) (buffer : Memory) (offset : Nat)
    (type : ScalarType) (values : List Int) (waits : List Event) : Action σ Event :=
  let data := Block.ofBytes (type.encodeList values)
  queue.write driver buffer offset data.size (some data) waits

/-- Reads `size` bytes of a buffer into host memory. -/
def read (driver : Driver σ) (queue : Queue) (buffer : Memory) (offset size : Nat)
    (target : Option Block) (waits : List Event) : Action σ Reading := do
  let submission ← queue.submit driver waits do
    pure (.readBuffer (← buffer.owned.use) offset size target.isSome)
  pure (submission.into (target.getD (.zeros 0)))

/-- Reads a buffer into memory for `count` numbers, all of them zero before. -/
def readValues (driver : Driver σ) (queue : Queue) (buffer : Memory) (offset : Nat)
    (type : ScalarType) (count : Nat) (waits : List Event) : Action σ Reading :=
  let size := type.width * count
  queue.read driver buffer offset size (some (.zeros size)) waits

def copy (driver : Driver σ) (queue : Queue) (source target : Memory)
    (sourceOffset targetOffset size : Nat) (waits : List Event) : Action σ Event :=
  queue.enqueue driver waits do
    let source ← source.owned.use
    let target ← target.owned.use
    pure (.copyBuffer source target sourceOffset targetOffset size)

/-- Fills a range of a buffer by repeating a pattern. -/
def fill (driver : Driver σ) (queue : Queue) (buffer : Memory) (pattern : Bytes)
    (offset size : Nat) (waits : List Event) : Action σ Event :=
  queue.enqueue driver waits do
    pure (.fillBuffer (← buffer.owned.use) (some pattern) pattern.length offset size)

/-- Reads a rectangle of an image into host memory, which is not checked. -/
def readImageInto (driver : Driver σ) (queue : Queue) (image : Memory) (region : ImageRegion)
    (target : Option Block) (waits : List Event) : Action σ Reading := do
  let submission ← queue.submit driver waits do
    pure (.readImage (← image.owned.use) (some region.origin) (some region.extent)
      region.rowPitch region.slicePitch target.isSome)
  pure (submission.into (target.getD (.zeros 0)))

/-- Writes host memory, which is not checked, to a rectangle of an image. -/
def writeImageFrom (driver : Driver σ) (queue : Queue) (image : Memory) (region : ImageRegion)
    (data : Option Block) (waits : List Event) : Action σ Event :=
  queue.enqueue driver waits do
    pure (.writeImage (← image.owned.use) (some region.origin) (some region.extent)
      region.rowPitch region.slicePitch data)

/-- Why host memory of a length cannot hold a rectangle of an image, if it cannot. -/
def imageDataError? (image : Memory) (region : ImageRegion) (length : Nat) : Option CallError :=
  match image.format?.bind ImageFormat.pixelSize? with
  | none => some (.native .invalidMemObject)
  | some pixel =>
    if length < region.hostLength pixel then some (.native .invalidValue) else none

/-- Reads a rectangle of an image into host memory that covers it. -/
def readImage (driver : Driver σ) (queue : Queue) (image : Memory) (region : ImageRegion)
    (memory : Block) (waits : List Event) : Action σ Reading :=
  match imageDataError? image region memory.size with
  | some error => pure ⟨memory, .error error⟩
  | none => queue.readImageInto driver image region (some memory) waits

/-- Writes host memory that covers a rectangle of an image to that rectangle. -/
def writeImage (driver : Driver σ) (queue : Queue) (image : Memory) (region : ImageRegion)
    (data : Block) (waits : List Event) : Action σ Event :=
  match imageDataError? image region data.size with
  | some error => Action.fail error
  | none => queue.writeImageFrom driver image region (some data) waits

/-- Dispatches a kernel over as many dimensions as there are global sizes. -/
def dispatch (driver : Driver σ) (queue : Queue) (kernel : Kernel) (globals : List Nat)
    (offsets locals : Option (List Nat)) (waits : List Event) : Action σ Event := do
  let dimensions := globals.length
  let differs (sizes : List Nat) : Bool := sizes.length != dimensions
  if dimensions = 0 then Action.refuse .invalidWorkDimension
  else if offsets.any differs then Action.refuse .invalidGlobalOffset
  else if locals.any differs then Action.refuse .invalidWorkGroupSize
  else
    Action.note (.dispatching kernel.name globals locals)
    queue.enqueue driver waits do
      pure (.dispatch (← kernel.owned.use) (dimensions % halfRange) offsets (some globals) locals)

/-- A command that holds back later ones until those it waits for are complete. -/
def barrier (driver : Driver σ) (queue : Queue) (waits : List Event) : Action σ Event :=
  queue.enqueue driver waits (pure .barrier)

/-- Like a barrier, but holds nothing back. -/
def marker (driver : Driver σ) (queue : Queue) (waits : List Event) : Action σ Event :=
  queue.enqueue driver waits (pure .marker)

def written (queue : Queue) : String :=
  Text.writtenRecord "CommandQueue"
    [("handle", queue.owned.written), ("device", queue.device.written),
     ("properties", queueProperties.written queue.properties)]

end Queue
end Offload.Host

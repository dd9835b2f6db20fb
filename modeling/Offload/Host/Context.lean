import Offload.Bitmap
import Offload.Host.Queue

/-! Contexts and all that is allocated in them. -/
namespace Offload.Host

/-- A context over a fixed list of devices. -/
structure Context where
  owned : Owned .context
  devices : List Device
  deriving DecidableEq, Repr

/-- The most image formats that are listed. -/
def formatLimit : Nat := 256

namespace Context
variable {σ : Type}

def create (driver : Driver σ) (devices : List Device) : Action σ Context := do
  if devices.isEmpty then Action.fail .noDevices
  else
    let handle ← Action.obtain driver (.createContext (.ofList (idsOf devices)))
    pure ⟨← Owned.adopt .context handle, devices⟩

def newQueue (driver : Driver σ) (context : Context) (device : Device) (properties : UInt64) :
    Action σ Queue := do
  let handle ← context.owned.use
  let queue ← Action.obtain driver (.createQueue handle device.id properties)
  pure ⟨← Owned.adopt .queue queue, device, properties⟩

/-- Refuses a list in which some text holds a NUL. -/
def allWithoutNul : List String → Action σ Unit
  | [] => pure ()
  | text :: rest => do
    withoutNul text
    allWithoutNul rest

/-- A program from consecutive pieces of source, for all devices of the context. -/
def newProgram (driver : Driver σ) (context : Context) (sources : List String) : Action σ Program := do
  allWithoutNul sources
  let handle ← context.owned.use
  let program ← Action.obtain driver
    (.createProgram handle (sources.length % halfRange) (some (sources.map some)) false)
  pure ⟨← Owned.adopt .program program, context.devices⟩

/-- A buffer over host memory that is not checked. -/
def newBufferFrom (driver : Driver σ) (context : Context) (flags : UInt64) (size : Nat)
    (host : Option Block) : Action σ Memory := do
  let handle ← context.owned.use
  let buffer ← Action.obtain driver (.createBuffer handle flags size host)
  Action.note (.bufferMade size flags)
  pure ⟨← Owned.adopt .memory buffer, .buffer size⟩

/-- A buffer without initial contents. -/
def newBuffer (driver : Driver σ) (context : Context) (flags : UInt64) (size : Nat) : Action σ Memory :=
  context.newBufferFrom driver flags size none

/-- A buffer that starts as a copy of numbers. The numbers are lent for this call only, so
memory in which the runtime would keep working on them is refused. -/
def newBufferOf (driver : Driver σ) (context : Context) (flags : UInt64) (type : ScalarType)
    (values : List Int) : Action σ Memory :=
  if containsBits flags useHostPointer then Action.refuse .invalidHostPtr
  else
    let data := Block.ofBytes (type.encodeList values)
    context.newBufferFrom driver (flags ||| copyHostPointer) data.size (some data)

/-- The handle of the buffer behind an image; zero where it has storage of its own. -/
def backingHandle : Option Memory → Action σ Nat
  | none => pure 0
  | some memory => memory.owned.use

/-- An image over host memory that is not checked. -/
def newImageFrom (driver : Driver σ) (context : Context) (flags : UInt64) (format : ImageFormat)
    (descriptor : ImageDescriptor) (backing : Option Memory) (host : Option Block) :
    Action σ Memory := do
  let buffer ← backingHandle backing
  let handle ← context.owned.use
  let image ← Action.obtain driver
    (.createImage handle flags (some format.toRaw) (some { descriptor with buffer := buffer }) host)
  Action.note (.imageMade descriptor format)
  pure ⟨← Owned.adopt .memory image, .image format⟩

/-- An image, with initial contents where data is given. The data is lent for this call
only and has to cover the whole image. -/
def newImage (driver : Driver σ) (context : Context) (flags : UInt64) (format : ImageFormat)
    (descriptor : ImageDescriptor) (backing : Option Memory) (data : Option Block) :
    Action σ Memory :=
  match data with
  | none => context.newImageFrom driver flags format descriptor backing none
  | some data =>
    if containsBits flags useHostPointer then Action.refuse .invalidHostPtr
    else match format.pixelSize? with
      | none => Action.refuse .imageFormatNotSupported
      | some pixel =>
        if data.size < descriptor.hostLength pixel then Action.refuse .invalidHostPtr
        else context.newImageFrom driver (flags ||| copyHostPointer) format descriptor backing
          (some data)

/-- A two-dimensional image whose pitch the runtime chooses. -/
def newFlatImage (driver : Driver σ) (context : Context) (flags : UInt64) (format : ImageFormat)
    (width height : Nat) (data : Option Block) : Action σ Memory :=
  context.newImage driver flags format (.flat width height) none data

/-- The format in which pixels of some channels are uploaded, one byte each. -/
def byteFormat (order : ChannelOrder) : ImageFormat := ⟨.listed order, .listed .unormInt8⟩

/-- Uploads a bitmap. Storage that fits an image format goes up as it is, rows apart as
they are; everything else is unpacked into colors first. -/
def newImageOf (driver : Driver σ) (context : Context) (flags : UInt64) (bitmap : Bitmap) :
    Action σ Memory :=
  let shape : ImageDescriptor := .flat bitmap.width bitmap.height
  match bitmap.layout with
  | .gray8 pixels stride =>
    context.newImage driver flags (byteFormat .intensity) { shape with rowPitch := stride } none
      (some pixels)
  | .rgba8 pixels stride =>
    context.newImage driver flags (byteFormat .rgba) { shape with rowPitch := stride } none
      (some pixels)
  | .other => do
    let data ← Action.ofFaulty bitmap.toRgba8
    context.newFlatImage driver flags (byteFormat .rgba) bitmap.width bitmap.height
      (some (.ofBytes data))

/-- The formats that images of a kind can have. -/
def imageFormats (driver : Driver σ) (context : Context) (flags : UInt64)
    (kind : Coded MemoryKind) : Action σ (List ImageFormat) := do
  let handle ← context.owned.use
  let response ← Action.demand driver (.imageFormats handle flags kind.raw formatLimit true true)
  let count := response.reported.getD 0
  pure ((visible formatLimit count {} response.formats).map ImageFormat.ofRaw)

/-- An event that the host decides. -/
def newUserEvent (driver : Driver σ) (context : Context) : Action σ Event := do
  let handle ← context.owned.use
  let event ← Action.obtain driver (.createUserEvent handle)
  pure ⟨← Owned.adopt .event event⟩

def written (context : Context) : String :=
  Text.writtenRecord "Context"
    [("handle", context.owned.written), ("devices", writtenDevices context.devices)]

end Context
end Offload.Host

import Offload.Simulator.Square
import Offload.Simulator.Transfer

/-! Binding arguments to a kernel and dispatching it. The kernel named `square` squares
32-bit floating-point words; every other kernel does nothing. -/
namespace Offload.Simulator

def maxWorkGroupSize : Nat := 256

/-- The bytes to bind to a parameter, if the given value suits it. -/
def argumentBytes (store : Store) (parameter : ParameterKind) (size : Nat) (value : Option Bytes) :
    Except Refusal Bytes :=
  match parameter, value with
  | .localMemory, some _ => refuse .invalidArgValue
  | .localMemory, none => if size = 0 then refuse .invalidArgSize else .ok []
  | _, none => refuse .invalidArgValue
  | .pointer, some host =>
    if size ≠ 8 then refuse .invalidArgSize
    else match store.memory (LittleEndian.toNat (host.read 0 8)) with
      | .ok _ => .ok (host.read 0 8)
      | .error _ => refuse .invalidMemObject
  | .scalar width, some host =>
    if size ≠ width then refuse .invalidArgSize else .ok (host.read 0 width)

/-- Binds a value to one parameter of a kernel. -/
def Store.setArgument (store : Store) (id index size : Nat) (value : Option Bytes) :
    Except Refusal Store := do
  let kernel ← store.kernel id
  match kernel.signature.parameters[index]? with
  | none => refuse .invalidArgIndex
  | some parameter =>
    let bytes ← argumentBytes store parameter size value
    .ok (store.replace id (.kernel { kernel with arguments := kernel.arguments.set index (some bytes) }))

/-- The number bound to a parameter, which has to fill `width` bytes. Asking for a
parameter that the kernel does not have is a fault. -/
def argumentNumber (arguments : List (Option Bytes)) (index width : Nat) : Except Refusal Nat :=
  match arguments[index]? with
  | none => .error (.fault (.outside arguments.length index))
  | some bound =>
    let bytes := bound.getD []
    if bytes.length = width then .ok (LittleEndian.toNat bytes) else refuse .invalidKernelArgs

namespace Store

/-- Writes the squares of the first words of argument 0 to argument 1: as many words as
there are work items, but no more than argument 2 says. -/
def runSquare (store : Store) (kernel : Kernel) (items : Nat) : Except Refusal Effect := do
  let source ← argumentNumber kernel.arguments 0 8
  let target ← argumentNumber kernel.arguments 1 8
  let limit ← argumentNumber kernel.arguments 2 4
  let count := min items limit
  let sourceMemory ← store.memory source
  require (count * 4 ≤ sourceMemory.data.size) .outOfResources
  let squares := squared (sourceMemory.data.window 0 (count * 4))
  let targetMemory ← store.memory target
  require (squares.size ≤ targetMemory.data.size) .outOfResources
  .ok { change := some (target, targetMemory.data.overwrite 0 squares) }

/-- Whether local sizes make up work groups that the devices accept. Their product is taken in
64 bits. -/
def groupsFit (globals locals : List Nat) : Bool :=
  !locals.contains 0 && locals.foldl (· * ·) 1 % fullRange ≤ maxWorkGroupSize &&
    (globals.zip locals).all fun size => size.1 % size.2 == 0

/-- Dispatches a kernel over as many sizes as `dimensions` says. -/
def dispatch (store : Store) (id dimensions : Nat) (globals locals : Option (List Nat)) :
    Except Refusal Effect := do
  let kernel ← store.kernel id
  require (1 ≤ dimensions && dimensions ≤ 3) .invalidWorkDimension
  match globals with
  | none => refuse .invalidGlobalWorkSize
  | some globals =>
    let globals := globals.take dimensions
    require (!globals.contains 0) .invalidGlobalWorkSize
    match locals with
    | none => .ok ()
    | some locals => require (groupsFit globals (locals.take dimensions)) .invalidWorkGroupSize
    require (kernel.arguments.all Option.isSome) .invalidKernelArgs
    if kernel.signature.name = "square" then store.runSquare kernel (globals.headD 0)
    else .ok {}

/-- The effect of a queued command. -/
def effect (store : Store) : Command → Except Refusal Effect
  | .readBuffer buffer offset size target => store.readBuffer buffer offset size target
  | .writeBuffer buffer offset size data => store.writeBuffer buffer offset size data
  | .copyBuffer source target sourceOffset targetOffset size =>
    store.copyBuffer source target sourceOffset targetOffset size
  | .fillBuffer buffer pattern patternSize offset size =>
    store.fillBuffer buffer pattern patternSize offset size
  | .readImage image origin extent rowPitch _ target =>
    store.readImage image origin extent rowPitch target
  | .writeImage image origin extent rowPitch _ data =>
    store.writeImage image origin extent rowPitch data
  | .dispatch kernel dimensions _ globals locals => store.dispatch kernel dimensions globals locals
  | .barrier | .marker => .ok {}

end Store
end Offload.Simulator

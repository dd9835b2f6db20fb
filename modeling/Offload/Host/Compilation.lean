import Offload.Progress
import Offload.Host.Discovery
import Offload.Host.Memory
import Offload.Host.Ownership
import Offload.Text.Blank

/-! Programs, their compilation and the kernels made from them. -/
namespace Offload.Host

/-- Refuses a text that cannot be handed over. -/
def withoutNul {σ : Type} (text : String) : Action σ Unit :=
  match nativeText? text with
  | none => Action.fail .interiorNul
  | some _ => pure ()

structure Program where
  owned : Owned .program
  devices : List Device
  deriving DecidableEq, Repr

/-- A kernel and the name it was made under. -/
structure Kernel where
  owned : Owned .kernel
  name : String
  deriving DecidableEq, Repr

namespace Program
variable {σ : Type}

/-- A question about a program as built for a device. -/
def ask {α : Type} (driver : Driver σ) (program : Program) (device : Device)
    (parameter : BuildParameter) (put : Question σ → Action σ α) : Action σ α := do
  let handle ← program.owned.use
  put (Question.info driver (.build handle device.id) parameter.code)

/-- What the compiler said when the program was last built for a device. -/
def buildLog (driver : Driver σ) (program : Program) (device : Device) : Action σ String :=
  program.ask driver device .log (·.longString 2048)

def buildStatus (driver : Driver σ) (program : Program) (device : Device) :
    Action σ (Coded BuildStatus) := do
  let raw ← program.ask driver device .status (·.value .int32)
  pure (.ofRaw raw)

/-- The first line of a text that is not blank. -/
def firstLine (text : List Char) : List Char :=
  ((Text.lines text).find? fun line => !Text.isAllBlank line).getD []

/-- The error of a failed compilation: the log of the first device, where it says anything. -/
def buildFailure (driver : Driver σ) (program : Program) : Action σ CallError := do
  match program.devices with
  | [] => pure (.native .buildProgramFailure)
  | device :: _ =>
    match ← Action.outcome (program.buildLog driver device) with
    | .ok log =>
      if Text.isAllBlank log.toList then
        Action.note .buildLogEmpty
        pure (.native .buildProgramFailure)
      else
        Action.note (.buildFailed (String.ofList (firstLine log.toList)))
        pure (.build log)
    | .error error =>
      Action.note (.buildLogUnavailable error)
      pure (.native .buildProgramFailure)

/-- Compiles a program for some devices, or for all of its devices where none are named. -/
def build (driver : Driver σ) (program : Program) (devices : List Device) (options : String) :
    Action σ Unit := do
  withoutNul options
  let handle ← program.owned.use
  Action.note (.building handle devices.length)
  let given := if options.isEmpty then none else some options
  let response ← Action.call driver (.buildProgram handle (.ofList (idsOf devices)) given)
  match CallError.ofStatus? response.status with
  | none => pure ()
  | some (.native .buildProgramFailure) => Action.fail (← program.buildFailure driver)
  | some error => Action.fail error

def newKernel (driver : Driver σ) (program : Program) (name : String) : Action σ Kernel := do
  withoutNul name
  let handle ← program.owned.use
  let kernel ← Action.obtain driver (.createKernel handle (some name))
  pure ⟨← Owned.adopt .kernel kernel, name⟩

def written (program : Program) : String :=
  Text.writtenRecord "Program"
    [("handle", program.owned.written), ("devices", writtenDevices program.devices)]

end Program

namespace Kernel
variable {σ : Type}

/-- The name that the runtime reports. -/
def functionName (driver : Driver σ) (kernel : Kernel) : Action σ String := do
  let handle ← kernel.owned.use
  (Question.info driver (.kernel handle) KernelParameter.functionName.code).string 256

def argumentCount (driver : Driver σ) (kernel : Kernel) : Action σ Int := do
  let handle ← kernel.owned.use
  (Question.info driver (.kernel handle) KernelParameter.argumentCount.code).value .uint32

/-- What holds for the kernel on a device. -/
def workGroup (driver : Driver σ) (kernel : Kernel) (device : Option Device)
    (parameter : WorkGroupParameter) : Action σ Int := do
  let handle ← kernel.owned.use
  let id := match device with
    | some device => device.id
    | none => 0
  (Question.info driver (.workGroup handle id) parameter.code).value .uint64

/-- Binds `size` bytes to a parameter; no bytes at all stand for a null pointer. -/
def bind (driver : Driver σ) (kernel : Kernel) (index size : Nat) (value : Option Bytes) :
    Action σ Unit := do
  let handle ← kernel.owned.use
  let _ ← Action.demand driver (.setKernelArg handle index size value)

/-- Binds a number. -/
def bindScalar (driver : Driver σ) (kernel : Kernel) (index : Nat) (type : ScalarType) (value : Int) :
    Action σ Unit :=
  kernel.bind driver index type.width (some (type.encode value))

/-- Binds a memory object by its handle. -/
def bindMemory (driver : Driver σ) (kernel : Kernel) (index : Nat) (memory : Memory) :
    Action σ Unit := do
  let handle ← memory.owned.use
  kernel.bind driver index 8 (some (LittleEndian.ofNat 8 handle))

/-- Reserves local memory for a parameter. -/
def bindLocal (driver : Driver σ) (kernel : Kernel) (index size : Nat) : Action σ Unit :=
  kernel.bind driver index size none

def written (kernel : Kernel) : String :=
  Text.writtenRecord "Kernel" [("handle", kernel.owned.written), ("name", Text.quoted kernel.name)]

end Kernel

/-- The least number of work items that fills whole groups of a size and is not below
`count`; without a group size, `count` itself. -/
def paddedSize (count group : Nat) : Nat :=
  if group = 0 then count else (count + (group - 1)) / group * group

end Offload.Host

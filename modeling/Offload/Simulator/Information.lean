import Offload.Driver.Parameter
import Offload.Scalar
import Offload.Simulator.Dispatch
import Offload.Simulator.EventGraph
import Offload.Simulator.Topology
import Offload.Text.Utf8

/-! The answers to information queries: texts end with a zero byte, numbers have the width
of their type. -/
namespace Offload.Simulator

def textBytes (text : String) : Bytes := Text.Utf8.encode text.toList ++ [0]

def word32 (value : Nat) : Bytes := LittleEndian.ofNat 4 value

def word64 (value : Nat) : Bytes := LittleEndian.ofNat 8 value

def words64 (values : List Nat) : Bytes := values.flatMap word64

/-- Stores an answer: a value buffer that is too small refuses it, the length is reported. -/
def respond (bytes : Bytes) (window : Window) : Except Refusal Response :=
  if window.value ∧ window.size < bytes.length then refuse .invalidValue
  else .ok {
    writes := if window.value then [(0, .ofBytes bytes)] else []
    reported := if window.length then some bytes.length else none }

/-- The answer of a parameter, which has to be known. -/
def known {α : Type} [Listed α] (parameter : Int) (answer : α → Except Refusal Bytes) :
    Except Refusal Bytes :=
  match Listed.ofCode? parameter with
  | some member => answer member
  | none => refuse .invalidValue

def platformAnswer (index : Nat) : PlatformParameter → Bytes
  | .name => textBytes ("Fake Platform " ++ Text.decimal index)
  | .vendor => textBytes "Fake Vendor"
  | .profile => textBytes "FULL_PROFILE"
  | .version => textBytes "OpenCL 1.2 Fake"
  | .extensions => textBytes "cl_khr_icd"

/-- What every device answers; it has no half precision. -/
def deviceAnswer (platform index : Nat) : DeviceParameter → Except Refusal Bytes
  | .name => .ok (textBytes ("Fake Device " ++ Text.decimal index))
  | .vendor => .ok (textBytes "Fake Vendor")
  | .version => .ok (textBytes "OpenCL 1.2 Fake")
  | .driverVersion => .ok (textBytes "1.0")
  | .profile => .ok (textBytes "FULL_PROFILE")
  | .extensions => .ok (textBytes "cl_khr_fp64 cl_khr_byte_addressable_store")
  | .languageVersion => .ok (textBytes "OpenCL C 1.2")
  | .builtInKernels => .ok (textBytes "")
  | .deviceType => .ok (word64 0x4)
  | .platform => .ok (word64 (platformId platform))
  | .vendorId => .ok (word32 0x1234)
  | .maxComputeUnits => .ok (word32 8)
  | .maxWorkItemDimensions => .ok (word32 3)
  | .maxClockFrequency => .ok (word32 1000)
  | .addressBits => .ok (word32 64)
  | .maxReadImageArguments => .ok (word32 128)
  | .maxWriteImageArguments => .ok (word32 8)
  | .maxSamplers => .ok (word32 16)
  | .baseAddressAlignment => .ok (word32 1024)
  | .globalCacheLineSize => .ok (word32 64)
  | .maxConstantArguments => .ok (word32 8)
  | .localMemoryKind => .ok (word32 1)
  | .globalCacheKind => .ok (word32 2)
  | .imageSupport | .littleEndian | .available | .compilerAvailable => .ok (word32 1)
  | .errorCorrection | .unifiedMemory => .ok (word32 0)
  | .maxWorkGroupSize => .ok (word64 Simulator.maxWorkGroupSize)
  | .maxWorkItemSizes => .ok (words64 [256, 256, 64])
  | .image2DMaxWidth | .image2DMaxHeight => .ok (word64 16384)
  | .image3DMaxWidth | .image3DMaxHeight | .image3DMaxDepth => .ok (word64 2048)
  | .maxParameterSize => .ok (word64 1024)
  | .globalMemorySize => .ok (word64 0x40000000)
  | .localMemorySize => .ok (word64 0x10000)
  | .maxAllocationSize => .ok (word64 0x10000000)
  | .globalCacheSize => .ok (word64 0x100000)
  | .maxConstantBufferSize => .ok (word64 0x10000)
  | .singlePrecision | .doublePrecision => .ok (word64 0x27)
  | .executionCapabilities => .ok (word64 0x1)
  | .queueProperties => .ok (word64 0x3)
  | .halfPrecision => refuse .invalidValue

def buildAnswer (program : Program) : BuildParameter → Bytes
  | .status => LittleEndian.ofInt 4 (Listed.code program.status)
  | .log => textBytes program.log
  | .options => textBytes ""

def kernelAnswer (kernel : Kernel) : KernelParameter → Bytes
  | .functionName => textBytes kernel.signature.name
  | .argumentCount => word32 kernel.signature.parameters.length

def workGroupAnswer : WorkGroupParameter → Bytes
  | .size => word64 maxWorkGroupSize
  | .preferredMultiple => word64 32

/-- The tick of a moment of a command that entered its queue at `queuedAt`. -/
def stampTick (queuedAt : Nat) : ProfilingStamp → Nat
  | .queued => queuedAt
  | .submit => queuedAt + 1
  | .start => queuedAt + 2
  | .finish => queuedAt + 3

namespace Store

/-- The bytes that answer a query. The object is looked up before the parameter. -/
def information (store : Store) (query : InfoQuery) (parameter : Int) : Except Refusal Bytes := do
  match query with
  | .platform platform =>
    let index ← store.platformIndex platform
    known parameter fun member => .ok (platformAnswer index member)
  | .device device =>
    let (platform, index) ← store.deviceIndex device
    known parameter (deviceAnswer platform index)
  | .build program device =>
    let _ ← store.deviceIndex device
    let program ← store.program program
    known parameter fun member => .ok (buildAnswer program member)
  | .kernel kernel =>
    let kernel ← store.kernel kernel
    known parameter fun member => .ok (kernelAnswer kernel member)
  | .workGroup kernel device =>
    let _ ← store.kernel kernel
    if device = 0 then pure () else do
      let _ ← store.deviceIndex device
    known parameter fun member => .ok (workGroupAnswer member)
  | .event event =>
    let _ ← store.event event
    known parameter fun (_ : EventParameter) => .ok (LittleEndian.ofInt 4 (store.objects.statusOf event))
  | .profiling event =>
    match ← store.event event with
    | .command _ (some queuedAt) =>
      known parameter fun member => .ok (word64 (stampTick queuedAt member))
    | _ => refuse .profilingInfoNotAvailable

end Store
end Offload.Simulator

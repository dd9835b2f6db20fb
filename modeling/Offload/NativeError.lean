import Offload.Coded

/-! The status codes that a native call can answer with, and the errors they stand
for. Zero is success; the other listed codes each have one error. -/
namespace Offload

/-- The failures that have a status code of their own. -/
inductive NativeError where
  | deviceNotFound | deviceNotAvailable | compilerNotAvailable | memObjectAllocationFailure
  | outOfResources | outOfHostMemory | profilingInfoNotAvailable | memCopyOverlap
  | imageFormatMismatch | imageFormatNotSupported | buildProgramFailure | mapFailure
  | misalignedSubBufferOffset | execStatusErrorForEventsInWaitList | compileProgramFailure
  | linkerNotAvailable | linkProgramFailure | devicePartitionFailed
  | kernelArgInfoNotAvailable | invalidValue | invalidDeviceType | invalidPlatform
  | invalidDevice | invalidContext | invalidQueueProperties | invalidCommandQueue
  | invalidHostPtr | invalidMemObject | invalidImageFormatDescriptor | invalidImageSize
  | invalidSampler | invalidBinary | invalidBuildOptions | invalidProgram
  | invalidProgramExecutable | invalidKernelName | invalidKernelDefinition | invalidKernel
  | invalidArgIndex | invalidArgValue | invalidArgSize | invalidKernelArgs
  | invalidWorkDimension | invalidWorkGroupSize | invalidWorkItemSize | invalidGlobalOffset
  | invalidEventWaitList | invalidEvent | invalidOperation | invalidGlObject
  | invalidBufferSize | invalidMipLevel | invalidGlobalWorkSize | invalidProperty
  | invalidImageDescriptor | invalidCompilerOptions | invalidLinkerOptions
  | invalidDevicePartitionCount
  deriving DecidableEq, Repr

namespace NativeError

/-- How an error is coded, named and worded. -/
structure Entry where
  code : Int
  name : String
  message : String

def entry : NativeError → Entry
  | .deviceNotFound => ⟨-1, "DeviceNotFound", "Device not found"⟩
  | .deviceNotAvailable => ⟨-2, "DeviceNotAvailable", "Device not available"⟩
  | .compilerNotAvailable => ⟨-3, "CompilerNotAvailable", "Compiler not available"⟩
  | .memObjectAllocationFailure => ⟨-4, "MemObjectAllocationFailure", "Mem object allocation failure"⟩
  | .outOfResources => ⟨-5, "OutOfResources", "Out of resources"⟩
  | .outOfHostMemory => ⟨-6, "OutOfHostMemory", "Out of host memory"⟩
  | .profilingInfoNotAvailable => ⟨-7, "ProfilingInfoNotAvailable", "Profiling info not available"⟩
  | .memCopyOverlap => ⟨-8, "MemCopyOverlap", "Mem copy overlap"⟩
  | .imageFormatMismatch => ⟨-9, "ImageFormatMismatch", "Image format mismatch"⟩
  | .imageFormatNotSupported => ⟨-10, "ImageFormatNotSupported", "Image format not supported"⟩
  | .buildProgramFailure => ⟨-11, "BuildProgramFailure", "Build program failure"⟩
  | .mapFailure => ⟨-12, "MapFailure", "Map failure"⟩
  | .misalignedSubBufferOffset => ⟨-13, "MisalignedSubBufferOffset", "Misaligned sub buffer offset"⟩
  | .execStatusErrorForEventsInWaitList => ⟨-14, "ExecStatusErrorForEventsInWaitList", "Exec status error for events in wait list"⟩
  | .compileProgramFailure => ⟨-15, "CompileProgramFailure", "Compile program failure"⟩
  | .linkerNotAvailable => ⟨-16, "LinkerNotAvailable", "Linker not available"⟩
  | .linkProgramFailure => ⟨-17, "LinkProgramFailure", "Link program failure"⟩
  | .devicePartitionFailed => ⟨-18, "DevicePartitionFailed", "Device partition failed"⟩
  | .kernelArgInfoNotAvailable => ⟨-19, "KernelArgInfoNotAvailable", "Kernel arg info not available"⟩
  | .invalidValue => ⟨-30, "InvalidValue", "Invalid value"⟩
  | .invalidDeviceType => ⟨-31, "InvalidDeviceType", "Invalid device type"⟩
  | .invalidPlatform => ⟨-32, "InvalidPlatform", "Invalid platform"⟩
  | .invalidDevice => ⟨-33, "InvalidDevice", "Invalid device"⟩
  | .invalidContext => ⟨-34, "InvalidContext", "Invalid context"⟩
  | .invalidQueueProperties => ⟨-35, "InvalidQueueProperties", "Invalid queue properties"⟩
  | .invalidCommandQueue => ⟨-36, "InvalidCommandQueue", "Invalid command queue"⟩
  | .invalidHostPtr => ⟨-37, "InvalidHostPtr", "Invalid host ptr"⟩
  | .invalidMemObject => ⟨-38, "InvalidMemObject", "Invalid mem object"⟩
  | .invalidImageFormatDescriptor => ⟨-39, "InvalidImageFormatDescriptor", "Invalid image format descriptor"⟩
  | .invalidImageSize => ⟨-40, "InvalidImageSize", "Invalid image size"⟩
  | .invalidSampler => ⟨-41, "InvalidSampler", "Invalid sampler"⟩
  | .invalidBinary => ⟨-42, "InvalidBinary", "Invalid binary"⟩
  | .invalidBuildOptions => ⟨-43, "InvalidBuildOptions", "Invalid build options"⟩
  | .invalidProgram => ⟨-44, "InvalidProgram", "Invalid program"⟩
  | .invalidProgramExecutable => ⟨-45, "InvalidProgramExecutable", "Invalid program executable"⟩
  | .invalidKernelName => ⟨-46, "InvalidKernelName", "Invalid kernel name"⟩
  | .invalidKernelDefinition => ⟨-47, "InvalidKernelDefinition", "Invalid kernel definition"⟩
  | .invalidKernel => ⟨-48, "InvalidKernel", "Invalid kernel"⟩
  | .invalidArgIndex => ⟨-49, "InvalidArgIndex", "Invalid arg index"⟩
  | .invalidArgValue => ⟨-50, "InvalidArgValue", "Invalid arg value"⟩
  | .invalidArgSize => ⟨-51, "InvalidArgSize", "Invalid arg size"⟩
  | .invalidKernelArgs => ⟨-52, "InvalidKernelArgs", "Invalid kernel args"⟩
  | .invalidWorkDimension => ⟨-53, "InvalidWorkDimension", "Invalid work dimension"⟩
  | .invalidWorkGroupSize => ⟨-54, "InvalidWorkGroupSize", "Invalid work group size"⟩
  | .invalidWorkItemSize => ⟨-55, "InvalidWorkItemSize", "Invalid work item size"⟩
  | .invalidGlobalOffset => ⟨-56, "InvalidGlobalOffset", "Invalid global offset"⟩
  | .invalidEventWaitList => ⟨-57, "InvalidEventWaitList", "Invalid event wait list"⟩
  | .invalidEvent => ⟨-58, "InvalidEvent", "Invalid event"⟩
  | .invalidOperation => ⟨-59, "InvalidOperation", "Invalid operation"⟩
  | .invalidGlObject => ⟨-60, "InvalidGlObject", "Invalid GL object"⟩
  | .invalidBufferSize => ⟨-61, "InvalidBufferSize", "Invalid buffer size"⟩
  | .invalidMipLevel => ⟨-62, "InvalidMipLevel", "Invalid mip level"⟩
  | .invalidGlobalWorkSize => ⟨-63, "InvalidGlobalWorkSize", "Invalid global work size"⟩
  | .invalidProperty => ⟨-64, "InvalidProperty", "Invalid property"⟩
  | .invalidImageDescriptor => ⟨-65, "InvalidImageDescriptor", "Invalid image descriptor"⟩
  | .invalidCompilerOptions => ⟨-66, "InvalidCompilerOptions", "Invalid compiler options"⟩
  | .invalidLinkerOptions => ⟨-67, "InvalidLinkerOptions", "Invalid linker options"⟩
  | .invalidDevicePartitionCount => ⟨-68, "InvalidDevicePartitionCount", "Invalid device partition count"⟩

def code (error : NativeError) : Int := error.entry.code

def name (error : NativeError) : String := error.entry.name

def message (error : NativeError) : String := error.entry.message

/-- All listed errors. -/
def all : List NativeError :=
  [.deviceNotFound, .deviceNotAvailable, .compilerNotAvailable, .memObjectAllocationFailure,
   .outOfResources, .outOfHostMemory, .profilingInfoNotAvailable, .memCopyOverlap,
   .imageFormatMismatch, .imageFormatNotSupported, .buildProgramFailure, .mapFailure,
   .misalignedSubBufferOffset, .execStatusErrorForEventsInWaitList, .compileProgramFailure,
   .linkerNotAvailable, .linkProgramFailure, .devicePartitionFailed,
   .kernelArgInfoNotAvailable, .invalidValue, .invalidDeviceType, .invalidPlatform,
   .invalidDevice, .invalidContext, .invalidQueueProperties, .invalidCommandQueue,
   .invalidHostPtr, .invalidMemObject, .invalidImageFormatDescriptor, .invalidImageSize,
   .invalidSampler, .invalidBinary, .invalidBuildOptions, .invalidProgram,
   .invalidProgramExecutable, .invalidKernelName, .invalidKernelDefinition, .invalidKernel,
   .invalidArgIndex, .invalidArgValue, .invalidArgSize, .invalidKernelArgs,
   .invalidWorkDimension, .invalidWorkGroupSize, .invalidWorkItemSize, .invalidGlobalOffset,
   .invalidEventWaitList, .invalidEvent, .invalidOperation, .invalidGlObject,
   .invalidBufferSize, .invalidMipLevel, .invalidGlobalWorkSize, .invalidProperty,
   .invalidImageDescriptor, .invalidCompilerOptions, .invalidLinkerOptions,
   .invalidDevicePartitionCount]

instance : Listed NativeError where
  members := all
  code := code
  mem_members := by intro error; cases error <;> decide
  nodup_codes := by decide

end NativeError
end Offload

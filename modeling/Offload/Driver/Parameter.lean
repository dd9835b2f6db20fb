import Offload.Coded

/-! The parameters that information queries ask for. -/
namespace Offload

/-- What can be asked about a platform. -/
inductive PlatformParameter where
  | profile | version | name | vendor | extensions
  deriving DecidableEq, Repr

namespace PlatformParameter

def all : List PlatformParameter :=
  [.profile, .version, .name, .vendor, .extensions]

def code : PlatformParameter → Int
  | .profile => 0x0900 | .version => 0x0901 | .name => 0x0902 | .vendor => 0x0903
  | .extensions => 0x0904

instance : Listed PlatformParameter where
  members := all
  code := code
  mem_members := by intro parameter; cases parameter <;> decide
  nodup_codes := by decide

end PlatformParameter

/-- What can be asked about a device. -/
inductive DeviceParameter where
  | deviceType | vendorId | maxComputeUnits | maxWorkItemDimensions | maxWorkGroupSize
  | maxWorkItemSizes | maxClockFrequency | addressBits | maxReadImageArguments
  | maxWriteImageArguments | maxAllocationSize | image2DMaxWidth | image2DMaxHeight
  | image3DMaxWidth | image3DMaxHeight | image3DMaxDepth | imageSupport | maxParameterSize
  | maxSamplers | baseAddressAlignment | singlePrecision | globalCacheKind
  | globalCacheLineSize | globalCacheSize | globalMemorySize | maxConstantBufferSize
  | maxConstantArguments | localMemoryKind | localMemorySize | errorCorrection | littleEndian
  | available | compilerAvailable | executionCapabilities | queueProperties | name | vendor
  | driverVersion | profile | version | extensions | platform | doublePrecision | halfPrecision
  | unifiedMemory | languageVersion | builtInKernels
  deriving DecidableEq, Repr

namespace DeviceParameter

def all : List DeviceParameter :=
  [.deviceType, .vendorId, .maxComputeUnits, .maxWorkItemDimensions, .maxWorkGroupSize,
   .maxWorkItemSizes, .maxClockFrequency, .addressBits, .maxReadImageArguments,
   .maxWriteImageArguments, .maxAllocationSize, .image2DMaxWidth, .image2DMaxHeight,
   .image3DMaxWidth, .image3DMaxHeight, .image3DMaxDepth, .imageSupport, .maxParameterSize,
   .maxSamplers, .baseAddressAlignment, .singlePrecision, .globalCacheKind,
   .globalCacheLineSize, .globalCacheSize, .globalMemorySize, .maxConstantBufferSize,
   .maxConstantArguments, .localMemoryKind, .localMemorySize, .errorCorrection, .littleEndian,
   .available, .compilerAvailable, .executionCapabilities, .queueProperties, .name, .vendor,
   .driverVersion, .profile, .version, .extensions, .platform, .doublePrecision,
   .halfPrecision, .unifiedMemory, .languageVersion, .builtInKernels]

def code : DeviceParameter → Int
  | .deviceType => 0x1000 | .vendorId => 0x1001 | .maxComputeUnits => 0x1002
  | .maxWorkItemDimensions => 0x1003 | .maxWorkGroupSize => 0x1004
  | .maxWorkItemSizes => 0x1005 | .maxClockFrequency => 0x100C | .addressBits => 0x100D
  | .maxReadImageArguments => 0x100E | .maxWriteImageArguments => 0x100F
  | .maxAllocationSize => 0x1010 | .image2DMaxWidth => 0x1011 | .image2DMaxHeight => 0x1012
  | .image3DMaxWidth => 0x1013 | .image3DMaxHeight => 0x1014 | .image3DMaxDepth => 0x1015
  | .imageSupport => 0x1016 | .maxParameterSize => 0x1017 | .maxSamplers => 0x1018
  | .baseAddressAlignment => 0x1019 | .singlePrecision => 0x101B | .globalCacheKind => 0x101C
  | .globalCacheLineSize => 0x101D | .globalCacheSize => 0x101E | .globalMemorySize => 0x101F
  | .maxConstantBufferSize => 0x1020 | .maxConstantArguments => 0x1021
  | .localMemoryKind => 0x1022 | .localMemorySize => 0x1023 | .errorCorrection => 0x1024
  | .littleEndian => 0x1026 | .available => 0x1027 | .compilerAvailable => 0x1028
  | .executionCapabilities => 0x1029 | .queueProperties => 0x102A | .name => 0x102B
  | .vendor => 0x102C | .driverVersion => 0x102D | .profile => 0x102E | .version => 0x102F
  | .extensions => 0x1030 | .platform => 0x1031 | .doublePrecision => 0x1032
  | .halfPrecision => 0x1033 | .unifiedMemory => 0x1035 | .languageVersion => 0x103D
  | .builtInKernels => 0x103F

instance : Listed DeviceParameter where
  members := all
  code := code
  mem_members := by intro parameter; cases parameter <;> decide
  nodup_codes := by decide

end DeviceParameter

/-- What can be asked about a program built for a device. -/
inductive BuildParameter where
  | status | options | log
  deriving DecidableEq, Repr

namespace BuildParameter

def all : List BuildParameter :=
  [.status, .options, .log]

def code : BuildParameter → Int
  | .status => 0x1181 | .options => 0x1182 | .log => 0x1183

instance : Listed BuildParameter where
  members := all
  code := code
  mem_members := by intro parameter; cases parameter <;> decide
  nodup_codes := by decide

end BuildParameter

/-- What can be asked about a kernel. -/
inductive KernelParameter where
  | functionName | argumentCount
  deriving DecidableEq, Repr

namespace KernelParameter

def all : List KernelParameter :=
  [.functionName, .argumentCount]

def code : KernelParameter → Int
  | .functionName => 0x1190 | .argumentCount => 0x1191

instance : Listed KernelParameter where
  members := all
  code := code
  mem_members := by intro parameter; cases parameter <;> decide
  nodup_codes := by decide

end KernelParameter

/-- What can be asked about a kernel on a device. -/
inductive WorkGroupParameter where
  | size | preferredMultiple
  deriving DecidableEq, Repr

namespace WorkGroupParameter

def all : List WorkGroupParameter :=
  [.size, .preferredMultiple]

def code : WorkGroupParameter → Int
  | .size => 0x11B0 | .preferredMultiple => 0x11B3

instance : Listed WorkGroupParameter where
  members := all
  code := code
  mem_members := by intro parameter; cases parameter <;> decide
  nodup_codes := by decide

end WorkGroupParameter

/-- What can be asked about an event. -/
inductive EventParameter where
  | executionStatus
  deriving DecidableEq, Repr

namespace EventParameter

def all : List EventParameter :=
  [.executionStatus]

def code : EventParameter → Int
  | .executionStatus => 0x11D3

instance : Listed EventParameter where
  members := all
  code := code
  mem_members := by intro parameter; cases parameter; decide
  nodup_codes := by decide

end EventParameter

/-- The moments of a command that profiling records. -/
inductive ProfilingStamp where
  | queued | submit | start | finish
  deriving DecidableEq, Repr

namespace ProfilingStamp

def all : List ProfilingStamp :=
  [.queued, .submit, .start, .finish]

def code : ProfilingStamp → Int
  | .queued => 0x1280 | .submit => 0x1281 | .start => 0x1282 | .finish => 0x1283

instance : Listed ProfilingStamp where
  members := all
  code := code
  mem_members := by intro stamp; cases stamp <;> decide
  nodup_codes := by decide

end ProfilingStamp

end Offload

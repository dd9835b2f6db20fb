import Offload.CallError
import Offload.Fault
import Offload.Flags
import Offload.Image.Descriptor

/-! What the host side reports about its work, apart from results. -/
namespace Offload.Host

/-- Severities from the gravest to the least. -/
inductive Severity where
  | error | warning | debug
  deriving DecidableEq, Repr

namespace Severity

def rank : Severity → Nat
  | error => 0
  | warning => 1
  | debug => 2

def name : Severity → String
  | error => "ERROR"
  | warning => "WARN"
  | debug => "DEBUG"

end Severity

/-- The most platforms and devices that are listed. -/
def platformLimit : Nat := 32
def deviceLimit : Nat := 64

inductive Notice where
  | created (kind : ObjectKind) (handle : Nat)
  | releasing (kind : ObjectKind) (handle : Nat)
  | releaseFailed (kind : ObjectKind) (error : CallError)
  | bufferMade (size : Nat) (flags : UInt64)
  | imageMade (descriptor : ImageDescriptor) (format : ImageFormat)
  | building (program devices : Nat)
  | buildFailed (line : String)
  | buildLogEmpty
  | buildLogUnavailable (error : CallError)
  | dispatching (kernel : String) (globals : List Nat) (locals : Option (List Nat))
  | platformsHidden (count : Nat)
  | devicesHidden (count : Nat)
  | tryingLibrary (path : String)
  | loadedLibrary (path : String)
  deriving DecidableEq, Repr

namespace Notice

def severity : Notice → Severity
  | releaseFailed .. => .error
  | buildFailed _ | buildLogEmpty | buildLogUnavailable _ | platformsHidden _ | devicesHidden _ => .warning
  | _ => .debug

/-- That a listing was cut. -/
def hiddenText (count : Nat) (things : String) (limit : Nat) : String :=
  "Runtime reports " ++ Text.decimal count ++ " " ++ things ++ "; only the first " ++
    Text.decimal limit ++ " are visible"

def imageText (descriptor : ImageDescriptor) (format : ImageFormat) : String :=
  descriptor.kind.text ++ " image " ++ Text.decimal descriptor.width ++ "x" ++
    Text.decimal descriptor.height ++ "x" ++ Text.decimal descriptor.depth ++
    " (" ++ format.text ++ ")"

def text : Notice → String
  | created kind handle => "Created " ++ kind.name ++ " " ++ Text.address handle
  | releasing kind handle => "Releasing " ++ kind.name ++ " " ++ Text.address handle
  | releaseFailed kind error => "Failed to release " ++ kind.name ++ ": " ++ error.message
  | bufferMade size flags =>
    "Buffer of " ++ Text.decimal size ++ " bytes with flags " ++ memoryFlags.written flags
  | imageMade descriptor format => imageText descriptor format
  | building program devices =>
    "Building program " ++ Text.address program ++ " for " ++ Text.decimal devices ++ " devices"
  | buildFailed line => "Program build failed: " ++ line
  | buildLogEmpty => "Program build failed with an empty build log"
  | buildLogUnavailable error =>
    "Program build failed and the build log is unavailable: " ++ error.message
  | dispatching kernel globals locals =>
    "Dispatching " ++ kernel ++ " over " ++ Text.writtenSizes globals ++ " (local " ++
      Text.writtenOption (locals.map Text.writtenSizes) ++ ")"
  | platformsHidden count => hiddenText count "platforms" platformLimit
  | devicesHidden count => hiddenText count "devices" deviceLimit
  | tryingLibrary path => "Trying OpenCL library " ++ path
  | loadedLibrary path => "Loaded OpenCL library " ++ path

/-- The line that a log shows. -/
def line (notice : Notice) : String := notice.severity.name ++ " " ++ notice.text

end Notice
end Offload.Host

import Offload.Text.Radix

/-! Sets of flags held in 64 bits. A family declares named flags; bits that no
declared flag covers are kept and shown as a number. -/
namespace Offload

/-- Short labels, and what to show where none applies. -/
structure FlagLabels where
  labels : List (UInt64 × String)
  empty : String

/-- A declared family of flags, in the order in which they are listed. -/
structure FlagFamily where
  name : String
  flags : List (String × UInt64)
  labels? : Option FlagLabels

/-- Whether all bits of `part` are set in `bits`. -/
def containsBits (bits part : UInt64) : Bool := bits &&& part == part

/-- Whether some bit of `part` is set in `bits`. -/
def intersectsBits (bits part : UInt64) : Bool := bits &&& part != 0

namespace FlagFamily

/-- All bits that some flag of the family covers. -/
def mask (family : FlagFamily) : UInt64 := family.flags.foldl (fun bits flag => bits ||| flag.2) 0

def isDeclared (family : FlagFamily) (bits : UInt64) : Bool := bits &&& ~~~family.mask == 0

def truncate (family : FlagFamily) (bits : UInt64) : UInt64 := bits &&& family.mask

def complement (family : FlagFamily) (bits : UInt64) : UInt64 := ~~~bits &&& family.mask

/-- Lists the flags contained in `bits` that still meet `rest`, taking each out of `rest`. -/
def namesFrom (bits : UInt64) : (rest : UInt64) → List (String × UInt64) → List String × UInt64
  | rest, [] => ([], rest)
  | rest, (name, flag) :: flags =>
    if rest = 0 then ([], rest)
    else if containsBits bits flag && intersectsBits rest flag then
      let (names, left) := namesFrom bits (rest &&& ~~~flag) flags
      (name :: names, left)
    else namesFrom bits rest flags

/-- The names of the flags that make up `bits`, in order of declaration. -/
def names (family : FlagFamily) (bits : UInt64) : List String := (namesFrom bits bits family.flags).1

/-- The written form: the names, then the bits they leave over in hexadecimal. -/
def written (family : FlagFamily) (bits : UInt64) : String :=
  let (names, left) := namesFrom bits bits family.flags
  let parts := names ++ if left = 0 then [] else [Text.address left.toNat]
  family.name ++ "(" ++ (if parts.isEmpty then "0x0" else " | ".intercalate parts) ++ ")"

/-- The labels of the flags that `bits` meets, in order of declaration. -/
def text? (family : FlagFamily) (bits : UInt64) : Option String :=
  family.labels?.map fun shown =>
    let parts := (shown.labels.filter fun label => intersectsBits bits label.1).map (·.2)
    if parts.isEmpty then shown.empty else "|".intercalate parts

def text (family : FlagFamily) (bits : UInt64) : String := (family.text? bits).getD ""

end FlagFamily

/-- Kinds of devices to enumerate. -/
def deviceTypes : FlagFamily where
  name := "DeviceType"
  flags := [("DEFAULT", 0x1), ("CPU", 0x2), ("GPU", 0x4), ("ACCELERATOR", 0x8), ("CUSTOM", 0x10),
    ("ALL", 0xFFFFFFFF)]
  labels? := some
    { labels := [(0x1, "Default"), (0x2, "CPU"), (0x4, "GPU"), (0x8, "Accelerator"), (0x10, "Custom")]
      empty := "None" }

/-- Floating-point features of a device. -/
def floatFeatures : FlagFamily where
  name := "FpConfig"
  flags := [("DENORM", 0x1), ("INF_NAN", 0x2), ("ROUND_TO_NEAREST", 0x4), ("ROUND_TO_ZERO", 0x8),
    ("ROUND_TO_INF", 0x10), ("FMA", 0x20), ("SOFT_FLOAT", 0x40),
    ("CORRECTLY_ROUNDED_DIVIDE_SQRT", 0x80)]
  labels? := some
    { labels := [(0x1, "Denorm"), (0x2, "InfNaN"), (0x4, "RoundToNearest"), (0x8, "RoundToZero"),
        (0x10, "RoundToInf"), (0x20, "FMA"), (0x40, "SoftFloat"),
        (0x80, "CorrectlyRoundedDivideSqrt")]
      empty := "" }

/-- What a device can execute. -/
def executionCapabilities : FlagFamily where
  name := "ExecCapabilities"
  flags := [("KERNEL", 0x1), ("NATIVE_KERNEL", 0x2)]
  labels? := some { labels := [(0x1, "Kernel"), (0x2, "NativeKernel")], empty := "" }

/-- Properties of a command queue. -/
def queueProperties : FlagFamily where
  name := "CommandQueueProperties"
  flags := [("OUT_OF_ORDER_EXEC_MODE_ENABLE", 0x1), ("PROFILING_ENABLE", 0x2)]
  labels? := some
    { labels := [(0x1, "OutOfOrderExecModeEnable"), (0x2, "ProfilingEnable")], empty := "" }

/-- Access mode and host memory use of a memory object. -/
def memoryFlags : FlagFamily where
  name := "MemFlags"
  flags := [("READ_WRITE", 0x1), ("WRITE_ONLY", 0x2), ("READ_ONLY", 0x4), ("USE_HOST_PTR", 0x8),
    ("ALLOC_HOST_PTR", 0x10), ("COPY_HOST_PTR", 0x20), ("HOST_WRITE_ONLY", 0x80),
    ("HOST_READ_ONLY", 0x100), ("HOST_NO_ACCESS", 0x200)]
  labels? := none

/-- The flags that the library itself tests or sets. -/
def useHostPointer : UInt64 := 0x8
def copyHostPointer : UInt64 := 0x20
def profilingEnabled : UInt64 := 0x2
def allDeviceTypes : UInt64 := 0xFFFFFFFF

end Offload

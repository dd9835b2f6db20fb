import Offload.Host.Ownership
import Offload.Scalar

/-! Memory objects as their owners see them. -/
namespace Offload.Host

/-- What the host remembers about a memory object: the size of a buffer, or the format of
an image, whose layout is up to the runtime. -/
inductive MemoryShape where
  | buffer (size : Nat)
  | image (format : ImageFormat)
  deriving DecidableEq, Repr

structure Memory where
  owned : Owned .memory
  shape : MemoryShape
  deriving DecidableEq, Repr

namespace Memory

def size? (memory : Memory) : Option Nat :=
  match memory.shape with
  | .buffer size => some size
  | .image _ => none

def format? (memory : Memory) : Option ImageFormat :=
  match memory.shape with
  | .buffer _ => none
  | .image format => some format

def isImage (memory : Memory) : Bool := memory.format?.isSome

/-- The written form of a format, by the names of its codes. -/
def writtenFormat (format : ImageFormat) : String :=
  Text.writtenRecord "ImageFormat"
    [("channel_order", format.order.written), ("channel_data_type", format.type.written)]

def written (memory : Memory) : String :=
  Text.writtenRecord "MemObject"
    [("handle", memory.owned.written),
     ("size", Text.writtenOption (memory.size?.map Text.decimal)),
     ("format", Text.writtenOption (memory.format?.map writtenFormat))]

end Memory
end Offload.Host

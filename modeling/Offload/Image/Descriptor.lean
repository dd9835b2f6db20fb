import Offload.Image.Format

/-! The shape of an image to create, and the least host data that covers it. -/
namespace Offload

inductive MemoryKind where
  | buffer | image2D | image3D | image2DArray | image1D | image1DArray | image1DBuffer
  deriving DecidableEq, Repr

namespace MemoryKind

def all : List MemoryKind :=
  [.buffer, .image2D, .image3D, .image2DArray, .image1D, .image1DArray, .image1DBuffer]

def code : MemoryKind → Int
  | .buffer => 0x10F0 | .image2D => 0x10F1 | .image3D => 0x10F2 | .image2DArray => 0x10F3
  | .image1D => 0x10F4 | .image1DArray => 0x10F5 | .image1DBuffer => 0x10F6

def label : MemoryKind → String
  | .buffer => "Buffer" | .image2D => "Image2D" | .image3D => "Image3D"
  | .image2DArray => "Image2DArray" | .image1D => "Image1D" | .image1DArray => "Image1DArray"
  | .image1DBuffer => "Image1DBuffer"

instance : Labelled MemoryKind where
  members := all
  code := code
  label := label
  name := label
  mem_members := by intro kind; cases kind <;> decide
  nodup_codes := by decide

end MemoryKind

/-- Shape and layout of an image. A pitch of zero leaves the distance between rows or
slices to the runtime. `buffer` is the handle of a backing buffer, zero for none. -/
structure ImageDescriptor where
  kind : Coded MemoryKind
  width : Nat := 0
  height : Nat := 0
  depth : Nat := 0
  arraySize : Nat := 0
  rowPitch : Nat := 0
  slicePitch : Nat := 0
  mipLevels : Nat := 0
  samples : Nat := 0
  buffer : Nat := 0
  deriving DecidableEq, Repr

namespace ImageDescriptor

/-- A two-dimensional image whose pitches the runtime chooses. -/
def flat (width height : Nat) : ImageDescriptor :=
  { kind := .listed .image2D, width := width, height := height }

/-- The least number of bytes that describe the whole image. -/
def hostLength (descriptor : ImageDescriptor) (pixelSize : Nat) : Nat :=
  let row := if descriptor.rowPitch = 0 then descriptor.width * pixelSize else descriptor.rowPitch
  let slice :=
    if descriptor.slicePitch = 0 then row * max descriptor.height 1 else descriptor.slicePitch
  slice * max descriptor.depth 1 * max descriptor.arraySize 1

end ImageDescriptor
end Offload

import Offload.Block
import Offload.Fault

/-! Host pictures. A bitmap shows every pixel as red, green, blue and opacity, and may
offer its own storage for a direct upload. -/
namespace Offload

/-- A pixel as four samples of eight bits. -/
structure Color where
  red : UInt8
  green : UInt8
  blue : UInt8
  alpha : UInt8
  deriving DecidableEq, Repr

def Color.bytes (color : Color) : Bytes := [color.red, color.green, color.blue, color.alpha]

/-- The storage that a bitmap offers: rows `stride` bytes apart, or none. -/
inductive PixelLayout where
  | gray8 (pixels : Block) (stride : Nat)
  | rgba8 (pixels : Block) (stride : Nat)
  | other
  deriving DecidableEq, Repr

structure Bitmap where
  width : Nat
  height : Nat
  layout : PixelLayout
  pixel : (x y : Nat) → Except Fault Color

/-- The sample at a position, or the fault of reaching outside. -/
def sampleAt (samples : Block) (index : Nat) : Except Fault UInt8 :=
  match samples.byte? index with
  | some sample => .ok sample
  | none => .error (.outside samples.size index)

/-- The color stored in the four samples from `start` on. -/
def colorAt (samples : Block) (start : Nat) : Except Fault Color := do
  let red ← sampleAt samples start
  let green ← sampleAt samples (start + 1)
  let blue ← sampleAt samples (start + 2)
  let alpha ← sampleAt samples (start + 3)
  .ok ⟨red, green, blue, alpha⟩

namespace Bitmap

/-- All positions of a picture, row by row. -/
def positions (width height : Nat) : List (Nat × Nat) :=
  (List.range height).flatMap fun y => (List.range width).map fun x => (x, y)

/-- The picture as tightly packed pixels of four bytes, row by row, or the first fault
among them. Memory for all of them is asked for first. -/
def toRgba8 (bitmap : Bitmap) : Except Fault Bytes := do
  reserve (bitmap.width * bitmap.height * 4)
  let colors ← (positions bitmap.width bitmap.height).mapM fun (x, y) => bitmap.pixel x y
  .ok (colors.flatMap Color.bytes)

/-- A bitmap whose colors are read from four bytes a pixel, whatever storage it offers. -/
def ofColors (width height : Nat) (layout : PixelLayout) (colors : Bytes) : Bitmap :=
  let samples := Block.ofBytes colors
  { width, height, layout, pixel := fun x y => colorAt samples ((y * width + x) * 4) }

end Bitmap

/-- A picture with one intensity sample a pixel. -/
structure GrayImage where
  width : Nat
  height : Nat
  pixels : Block
  deriving DecidableEq, Repr

namespace GrayImage

def blank (width height : Nat) : GrayImage := ⟨width, height, .zeros (width * height)⟩

/-- Makes a blank picture, if there can be memory for it. -/
def make (width height : Nat) : Except Fault GrayImage := do
  reserve (width * height)
  .ok (blank width height)

/-- Accepts exactly one byte for each pixel. -/
def ofPixels? (width height : Nat) (pixels : Bytes) : Option GrayImage :=
  if pixels.length = width * height then some ⟨width, height, .ofBytes pixels⟩ else none

def put (image : GrayImage) (x y : Nat) (value : UInt8) : Except Fault GrayImage :=
  let index := y * image.width + x
  if index < image.pixels.size then
    .ok { image with pixels := image.pixels.overwrite index (.ofBytes [value]) }
  else .error (.outside image.pixels.size index)

def pixel (image : GrayImage) (x y : Nat) : Except Fault Color := do
  let value ← sampleAt image.pixels (y * image.width + x)
  .ok ⟨value, value, value, 255⟩

def bitmap (image : GrayImage) : Bitmap :=
  { width := image.width, height := image.height
    layout := .gray8 image.pixels image.width, pixel := image.pixel }

end GrayImage

/-- A picture with four samples a pixel. -/
structure RgbaImage where
  width : Nat
  height : Nat
  pixels : Block
  deriving DecidableEq, Repr

namespace RgbaImage

def blank (width height : Nat) : RgbaImage := ⟨width, height, .zeros (width * height * 4)⟩

/-- Makes a blank picture, if there can be memory for it. -/
def make (width height : Nat) : Except Fault RgbaImage := do
  reserve (width * height * 4)
  .ok (blank width height)

/-- Accepts exactly four bytes for each pixel. -/
def ofPixels? (width height : Nat) (pixels : Bytes) : Option RgbaImage :=
  if pixels.length = width * height * 4 then some ⟨width, height, .ofBytes pixels⟩ else none

def put (image : RgbaImage) (x y : Nat) (color : Color) : Except Fault RgbaImage :=
  let start := (y * image.width + x) * 4
  if start + 4 ≤ image.pixels.size then
    .ok { image with pixels := image.pixels.overwrite start (.ofBytes color.bytes) }
  else .error .outsideRange

def pixel (image : RgbaImage) (x y : Nat) : Except Fault Color :=
  colorAt image.pixels ((y * image.width + x) * 4)

def bitmap (image : RgbaImage) : Bitmap :=
  { width := image.width, height := image.height
    layout := .rgba8 image.pixels (image.width * 4), pixel := image.pixel }

end RgbaImage
end Offload

import Offload.Bitmap

/-! Bitmaps that are drawn on and looked at step by step. -/
namespace Offload

/-- A picture of its own kind, or one that can only be looked at. -/
inductive Canvas where
  | gray (image : GrayImage)
  | rgba (image : RgbaImage)
  | view (bitmap : Bitmap)

namespace Canvas

/-- A blank picture, or one of the given pixels, if they are as many as it has. -/
def newGray (width height : Nat) : Option Bytes → Except Fault (Option Canvas)
  | none => (GrayImage.make width height).map fun image => some (gray image)
  | some pixels => .ok ((GrayImage.ofPixels? width height pixels).map gray)

def newRgba (width height : Nat) : Option Bytes → Except Fault (Option Canvas)
  | none => (RgbaImage.make width height).map fun image => some (rgba image)
  | some pixels => .ok ((RgbaImage.ofPixels? width height pixels).map rgba)

def bitmap : Canvas → Bitmap
  | gray image => image.bitmap
  | rgba image => image.bitmap
  | view bitmap => bitmap

/-- The stored samples, where the canvas owns them. -/
def pixels : Canvas → Bytes
  | gray image => image.pixels.bytes
  | rgba image => image.pixels.bytes
  | view _ => []

/-- Sets a pixel from as many samples as it has; none where that does not fit the canvas. -/
def put? (canvas : Canvas) (x y : Nat) (samples : Bytes) : Option (Except Fault Canvas) :=
  match canvas, samples with
  | gray image, [value] => some ((image.put x y value).map gray)
  | rgba image, [red, green, blue, alpha] => some ((image.put x y ⟨red, green, blue, alpha⟩).map rgba)
  | _, _ => none

/-- A step shows a pixel, or sets it and shows all samples. -/
structure Stroke where
  x : Nat
  y : Nat
  samples? : Option Bytes := none

/-- One step: what it shows, and the canvas afterwards. A step that does not fit the canvas
shows nothing and leaves it as it is, as does one that could not be understood. -/
def draw (canvas : Canvas) : Option Stroke → Option (Except Fault Bytes) × Canvas
  | none => (none, canvas)
  | some stroke =>
    match stroke.samples? with
    | none => (some ((canvas.bitmap.pixel stroke.x stroke.y).map Color.bytes), canvas)
    | some samples =>
      match canvas.put? stroke.x stroke.y samples with
      | none => (none, canvas)
      | some (.error fault) => (some (.error fault), canvas)
      | some (.ok drawn) => (some (.ok drawn.pixels), drawn)

/-- What each of several steps shows, and the canvas after the last. -/
def drawAll (canvas : Canvas) : List (Option Stroke) → List (Option (Except Fault Bytes)) × Canvas
  | [] => ([], canvas)
  | stroke :: rest =>
    let (shown, drawn) := canvas.draw stroke
    let (others, final) := drawn.drawAll rest
    (shown :: others, final)

end Canvas
end Offload

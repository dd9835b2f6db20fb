import Offload.Proofs.Bitmaps
import Offload.Proofs.InitialContents

/-! Uploads of bitmaps. Storage that goes up as it is, rows apart as they are, makes the same image
as its colors unpacked one by one. Only the rows themselves arrive, never what stands behind them. -/
namespace Offload

theorem ImageRegion.hostLength_pitched (width height pitch pixel : Nat) :
    (ImageRegion.pitched width height pitch).hostLength pixel =
      (if pitch = 0 then width * pixel else pitch) * height := Nat.mul_one _

theorem Simulator.bytes_filledImage {width height pixel pitch : Nat} {host : Block}
    (rows : pitch = 0 ∨ width * pixel ≤ pitch)
    (covered : (if pitch = 0 then width * pixel else pitch) * height ≤ host.size) :
    (filledImage width height pixel pitch (some host)).data.bytes =
      host.rows height (width * pixel) (if pitch = 0 then width * pixel else pitch) := by
  have size : (Block.zeros (width * pixel * height)).size = width * height * pixel :=
    Nat.mul_right_comm width pixel height
  have fits := ((pitched_fits_iff ⟨width, height, pixel⟩ pitch).mpr rows).plan_fits rfl
    (ImageRegion.hostLength_pitched width height pitch pixel ▸ covered) size
  have conveys := RowPlan.conveys_upload fits
  have apart : width * pixel ≤ if pitch = 0 then width * pixel else pitch := by split <;> omega
  apply Block.eq_rows apart covered
  · rw [Block.length_bytes, Nat.mul_comm height]
    exact Block.size_patch _ _
  · intro row below offset short
    apply conveys.copied
    rw [plan_pitched]
    exact ⟨row, below, offset, short, rfl, by rw [Nat.zero_add]⟩

end Offload

namespace Offload.Host
open Simulator

/-- A bitmap goes up, and makes an image of these bytes. -/
def Pictures (context : Context) (flags : UInt64) (scene : Scene Machine) (bitmap : Bitmap)
    (pixel : Nat) (bytes : Bytes) : Prop :=
  ∃ image after stored,
    (context.newImageOf Machine.driver flags bitmap).perform scene = (.ok image, after) ∧
      after.world.store.memory image.owned.handle = .ok stored ∧
      stored.shape? = some ⟨bitmap.width, bitmap.height, pixel⟩ ∧ stored.data.bytes = bytes

section
variable {scene : Scene Machine} {context : Context} {flags : UInt64} {pixels : Block} {stride : Nat}
  (bitmap : Bitmap) (reachable : scene.world.Reachable) (provides : Provides scene.world context)
  (lendable : LendableFlags flags) (wide : 0 < bitmap.width) (high : 0 < bitmap.height)
include reachable provides lendable wide high

theorem newImage_holds_rows {format : ImageFormat} {pixel pitch : Nat}
    (sized : format.pixelSize? = some pixel) (rows : pitch = 0 ∨ bitmap.width * pixel ≤ pitch)
    (covered : (if pitch = 0 then bitmap.width * pixel else pitch) * bitmap.height ≤ pixels.size)
    (small : bitmap.width * pixel * bitmap.height ≤ memoryLimit) :
    ∃ image after stored, (context.newImage Machine.driver flags format
        (.pitched bitmap.width bitmap.height pitch) none (some pixels)).perform scene = (.ok image, after) ∧
      after.world.store.memory image.owned.handle = .ok stored ∧
      stored.shape? = some ⟨bitmap.width, bitmap.height, pixel⟩ ∧
      stored.data.bytes = pixels.rows bitmap.height (bitmap.width * pixel)
        (if pitch = 0 then bitmap.width * pixel else pitch) := by
  have fits := (pitched_fits_iff ⟨bitmap.width, bitmap.height, pixel⟩ pitch).mpr rows
  have held := ImageRegion.hostLength_pitched bitmap.width bitmap.height pitch pixel ▸ covered
  obtain ⟨image, after, performed, made⟩ :=
    (newImage_makes reachable provides lendable sized wide high pitch pixels).1 ⟨fits, held⟩ small
  exact ⟨image, after, _, performed, Store.memory_ok_iff.mpr made.stored, rfl,
    bytes_filledImage rows covered⟩

/-- Storage of one sample or of four samples a pixel goes up row by row. -/
theorem pictures_of_offered {pixel : Nat} (layout : (pixel = 1 ∧ bitmap.layout = .gray8 pixels stride) ∨
      (pixel = 4 ∧ bitmap.layout = .rgba8 pixels stride))
    (apart : bitmap.width * pixel ≤ stride) (held : stride * bitmap.height ≤ pixels.size)
    (small : bitmap.width * pixel * bitmap.height ≤ memoryLimit) :
    Pictures context flags scene bitmap pixel
      (pixels.rows bitmap.height (bitmap.width * pixel) stride) := by
  have filled : 0 < bitmap.width * pixel := Nat.mul_pos wide (by omega)
  have positive : stride ≠ 0 := by omega
  have covered : (if stride = 0 then bitmap.width * pixel else stride) * bitmap.height ≤ pixels.size := by
    rw [if_neg positive]
    exact held
  rcases layout with ⟨rfl, offered⟩ | ⟨rfl, offered⟩
  · have made := newImage_holds_rows bitmap reachable provides lendable wide high
      (show (Context.byteFormat .intensity).pixelSize? = some 1 from rfl) (Or.inr apart) covered small
    rw [if_neg positive] at made
    rw [Pictures, Context.newImageOf, offered]
    exact made
  · have made := newImage_holds_rows bitmap reachable provides lendable wide high
      (show (Context.byteFormat .rgba).pixelSize? = some 4 from rfl) (Or.inr apart) covered small
    rw [if_neg positive] at made
    rw [Pictures, Context.newImageOf, offered]
    exact made

theorem pictures_unpacked (other : bitmap.layout = .other) {bytes : Bytes}
    (unpacked : bitmap.toRgba8 = .ok bytes)
    (filled : bytes.length = bitmap.height * (bitmap.width * 4))
    (small : bitmap.width * 4 * bitmap.height ≤ memoryLimit) :
    Pictures context flags scene bitmap 4 bytes := by
  have size : (if 0 = 0 then bitmap.width * 4 else 0) * bitmap.height = (Block.ofBytes bytes).size := by
    rw [if_pos rfl, Block.size_ofBytes, filled, Nat.mul_comm]
  have made := newImage_holds_rows bitmap reachable provides lendable wide high
    (show (Context.byteFormat .rgba).pixelSize? = some 4 from rfl) (Or.inl rfl)
    (Nat.le_of_eq size) small
  rw [if_pos rfl, Block.rows_ofBytes filled] at made
  rw [Pictures, Context.newImageOf, other]
  dsimp only
  rw [unpacked]
  exact made

end

/-- Uploading a bitmap as it is comes to the same as uploading its colors. Storage of four samples
a pixel makes the image that the unpacked colors make, storage of one sample an image of the first
samples of the colors, and what stands behind the rows never arrives. Pictures of either sort offer
such storage. -/
theorem bitmaps_picture_their_colors {scene : Scene Machine} {context : Context} {flags : UInt64}
    (reachable : scene.world.Reachable) (provides : Provides scene.world context)
    (lendable : LendableFlags flags) :
    (∀ (bitmap : Bitmap) (pixels : Block) (stride : Nat), 0 < bitmap.width → 0 < bitmap.height →
      bitmap.OffersColors pixels stride → pixels.size ≤ memoryLimit → ∃ bytes, bitmap.toRgba8 = .ok bytes ∧
        Pictures context flags scene bitmap 4 bytes ∧
        Pictures context flags scene { bitmap with layout := .other } 4 bytes ∧
        ∀ padded, pixels.SameRows padded bitmap.height (bitmap.width * 4) stride →
          Pictures context flags scene { bitmap with layout := .rgba8 padded stride } 4 bytes) ∧
    (∀ (bitmap : Bitmap) (pixels : Block) (stride : Nat), 0 < bitmap.width → 0 < bitmap.height →
      bitmap.OffersSamples pixels stride → pixels.size ≤ memoryLimit →
      ∃ bytes, bytes.length = bitmap.height * bitmap.width ∧
        (∀ x < bitmap.width, ∀ y < bitmap.height, ∃ color, bitmap.pixel x y = .ok color ∧
          bytes[y * bitmap.width + x]? = some color.red) ∧
        Pictures context flags scene bitmap 1 bytes ∧
        ∀ padded, pixels.SameRows padded bitmap.height bitmap.width stride →
          Pictures context flags scene { bitmap with layout := .gray8 padded stride } 1 bytes) ∧
    (∀ image : RgbaImage, image.Drawn →
      image.bitmap.OffersColors image.pixels (image.width * 4)) ∧
    ∀ image : GrayImage, image.Drawn → image.bitmap.OffersSamples image.pixels image.width := by
  refine ⟨?_, ?_, fun _ drawn => drawn.offers, fun _ drawn => drawn.offers⟩
  · intro bitmap pixels stride wide high offers stored
    have unpacked := offers.toRgba8_eq stored
    have small : bitmap.width * 4 * bitmap.height ≤ memoryLimit :=
      rows_inside offers.apart (Nat.le_trans offers.held stored)
    refine ⟨_, unpacked, ?_, ?_, ?_⟩
    · exact pictures_of_offered bitmap reachable provides lendable wide high
        (Or.inr ⟨rfl, offers.offered⟩) offers.apart offers.held small
    · exact pictures_unpacked { bitmap with layout := .other } reachable provides lendable wide
        high rfl unpacked (Block.length_rows offers.apart offers.held) small
    · intro padded same
      rw [← Block.rows_congr offers.apart offers.held same]
      exact pictures_of_offered { bitmap with layout := .rgba8 padded stride } reachable provides
        lendable wide high (Or.inr ⟨rfl, rfl⟩) offers.apart same.held small
  · intro bitmap pixels stride wide high offers stored
    have apart : bitmap.width * 1 ≤ stride := (Nat.mul_one _).symm ▸ offers.apart
    have small : bitmap.width * 1 * bitmap.height ≤ memoryLimit :=
      rows_inside apart (Nat.le_trans offers.held stored)
    have made := pictures_of_offered bitmap reachable provides lendable wide high
      (Or.inl ⟨rfl, offers.offered⟩) apart offers.held small
    rw [Nat.mul_one] at made
    refine ⟨_, Block.length_rows offers.apart offers.held, ?_, made, ?_⟩
    · intro x column y row
      obtain ⟨color, shown, sample⟩ := offers.reads x column y row
      refine ⟨color, shown, ?_⟩
      rw [Block.getElem?_rows offers.apart offers.held row column, Block.getElem?_bytes]
      exact sampleAt_ok_iff.mp sample
    · intro padded same
      rw [← Block.rows_congr offers.apart offers.held same]
      have drawn := pictures_of_offered { bitmap with layout := .gray8 padded stride } reachable provides
        lendable wide high (Or.inl ⟨rfl, rfl⟩) apart same.held small
      rw [Nat.mul_one] at drawn
      exact drawn

/-- Two pixels one below the other, each followed by a byte that belongs to none. -/
def paddedView : Bitmap :=
  let pixels := Block.ofBytes [1, 2, 3, 4, 99, 5, 6, 7, 8, 98]
  { width := 1, height := 2, layout := .rgba8 pixels 5, pixel := fun x y => colorAt pixels (y * 5 + x * 4) }

theorem paddedView_pictured :
    paddedView.toRgba8 = .ok [1, 2, 3, 4, 5, 6, 7, 8] ∧
      Pictures readiedContext 0x21 ⟨readied, []⟩ paddedView 4 [1, 2, 3, 4, 5, 6, 7, 8] ∧
      ∃ bytes, bytes[1]? = some 7 ∧
        Pictures readiedContext 0x21 ⟨readied, []⟩ (GrayImage.bitmap ⟨2, 1, .ofBytes [6, 7]⟩) 1 bytes := by
  have reachable : readied.Reachable := ⟨1, 1, _, rfl⟩
  have provides : Provides readied readiedContext :=
    ⟨rfl, fun _ _ => ⟨rfl, rfl⟩, [deviceId 0 0], rfl⟩
  have lendable : LendableFlags 0x21 := ⟨rfl, by decide, by decide⟩
  obtain ⟨colored, sampled, _, grays⟩ :=
    @bitmaps_picture_their_colors ⟨readied, []⟩ readiedContext 0x21 reachable provides lendable
  have unpacked : paddedView.toRgba8 = .ok [1, 2, 3, 4, 5, 6, 7, 8] := rfl
  refine ⟨unpacked, ?_, ?_⟩
  · have offers : paddedView.OffersColors (.ofBytes [1, 2, 3, 4, 99, 5, 6, 7, 8, 98]) 5 :=
      ⟨rfl, by decide, by decide, fun _ _ _ _ => rfl⟩
    obtain ⟨bytes, told, pictured, _⟩ :=
      colored paddedView _ 5 (by decide) (by decide) offers (by decide)
    cases unpacked.symm.trans told
    exact pictured
  · obtain ⟨bytes, _, shown, pictured, _⟩ := sampled _ _ _ (by decide) (by decide)
      (grays ⟨2, 1, .ofBytes [6, 7]⟩ (@GrayImage.Drawn.given 2 1 [6, 7] _ rfl)) (by decide)
    obtain ⟨color, seen, held⟩ := shown 1 (by decide) 0 (by decide)
    cases seen
    exact ⟨bytes, held, pictured⟩

end Offload.Host

import Offload.Bitmap
import Offload.Proofs.Rectangles

/-! Pictures as bytes. Unpacked row by row, a picture has each sample of each pixel in a place of its
own, and storage that shows the same colors has the same bytes in its rows, whatever stands behind
the end of a row. -/
namespace Offload

section
variable {α β : Type} {list : List α} {piece : α → List β} {size : Nat}

theorem length_flatMap_of_sized (sized : ∀ item ∈ list, (piece item).length = size) :
    (list.flatMap piece).length = list.length * size := by
  rw [List.length_flatMap, List.map_congr_left sized, List.map_const', List.sum_replicate_nat]

/-- Pieces of one length that follow one another are found at equal distances. -/
theorem getElem?_flatMap_of_sized (sized : ∀ item ∈ list, (piece item).length = size) (place : Nat)
    {offset : Nat} (short : offset < size) :
    (list.flatMap piece)[place * size + offset]? = list[place]?.bind fun item => (piece item)[offset]? := by
  induction list generalizing place with
  | nil => rfl
  | cons item rest ih =>
    have length := sized item List.mem_cons_self
    rw [List.flatMap_cons]
    cases place with
    | zero =>
      rw [Nat.zero_mul, Nat.zero_add, List.getElem?_append_left (length ▸ short)]
      rfl
    | succ place =>
      have next : (place + 1) * size + offset = (piece item).length + (place * size + offset) := by
        rw [Nat.succ_mul, length]
        omega
      rw [next, List.getElem?_append_right (Nat.le_add_right _ _), Nat.add_sub_cancel_left]
      exact ih (fun other member => sized other (List.mem_cons_of_mem _ member)) place

end

namespace Block
variable {block : Block} {count length pitch : Nat}

/-- The starts of the rows of a memory, one behind the other. -/
def rows (block : Block) (count length pitch : Nat) : Bytes :=
  (List.range count).flatMap fun row => (block.window (row * pitch) length).bytes

/-- Memory that holds the same rows, whatever stands behind them. -/
structure SameRows (block padded : Block) (count length pitch : Nat) : Prop where
  held : pitch * count ≤ padded.size
  shown : ∀ row < count, ∀ offset < length,
    padded.bytes[row * pitch + offset]? = block.bytes[row * pitch + offset]?

section
variable (apart : length ≤ pitch) (held : pitch * count ≤ block.size)
include apart held

theorem sized_rows : ∀ row ∈ List.range count,
    (block.window (row * pitch) length).bytes.length = length := by
  intro row member
  rw [length_bytes, size_window_of_fits (row_inside apart held (List.mem_range.mp member))]

theorem length_rows : (block.rows count length pitch).length = count * length := by
  rw [rows, length_flatMap_of_sized (sized_rows apart held), List.length_range]

theorem getElem?_rows {row offset : Nat} (below : row < count) (short : offset < length) :
    (block.rows count length pitch)[row * length + offset]? = block.bytes[row * pitch + offset]? := by
  rw [rows, getElem?_flatMap_of_sized (sized_rows apart held) row short, List.getElem?_range below,
    Option.bind_some, getElem?_bytes_window, if_pos short]

/-- Bytes that show every row are the rows. -/
theorem eq_rows {bytes : Bytes} (filled : bytes.length = count * length)
    (shown : ∀ row < count, ∀ offset < length,
      bytes[row * length + offset]? = block.bytes[row * pitch + offset]?) :
    bytes = block.rows count length pitch := by
  apply List.ext_getElem?
  intro index
  by_cases inside : index < count * length
  · obtain ⟨row, below, offset, short, rfl⟩ := (ImageRegion.exists_pixel_iff count).mp inside
    rw [shown row below offset short, getElem?_rows apart held below short]
  · rw [List.getElem?_eq_none (by omega),
      List.getElem?_eq_none (by rw [length_rows apart held]; omega)]

/-- What stands between the rows makes no difference. -/
theorem rows_congr {padded : Block} (same : block.SameRows padded count length pitch) :
    padded.rows count length pitch = block.rows count length pitch := by
  apply eq_rows apart held (length_rows apart same.held)
  intro row below offset short
  rw [getElem?_rows apart same.held below short, same.shown row below offset short]

end

/-- Rows without a gap are the whole memory. -/
theorem rows_ofBytes {bytes : Bytes} (filled : bytes.length = count * length) :
    (ofBytes bytes).rows count length length = bytes := by
  have size : length * count = (ofBytes bytes).size := by rw [size_ofBytes, filled, Nat.mul_comm]
  have held := Nat.le_of_eq size
  symm
  apply eq_rows (Nat.le_refl length) held filled
  intro row _ offset _
  rw [bytes_ofBytes]

end Block

/-- The color whose four samples are kept from a position on. -/
def Block.color (block : Block) (start : Nat) : Color :=
  ⟨block.kept.cell start, block.kept.cell (start + 1), block.kept.cell (start + 2),
    block.kept.cell (start + 3)⟩

theorem sampleAt_of_inside {samples : Block} {index : Nat} (inside : index < samples.size) :
    sampleAt samples index = .ok (samples.kept.cell index) := by
  rw [sampleAt, Block.byte?, if_pos inside]

theorem sampleAt_ok_iff {samples : Block} {index : Nat} {sample : UInt8} :
    sampleAt samples index = .ok sample ↔ samples.byte? index = some sample := by
  rw [sampleAt]
  cases samples.byte? index with
  | none => exact ⟨nofun, nofun⟩
  | some found => exact ⟨fun told => congrArg some (Except.ok.inj told),
      fun found => congrArg Except.ok (Option.some.inj found)⟩

private theorem colorAt_of_inside {samples : Block} {start : Nat} (inside : start + 4 ≤ samples.size) :
    colorAt samples start = .ok (samples.color start) := by
  have told : ∀ channel < 4, sampleAt samples (start + channel) =
      .ok (samples.kept.cell (start + channel)) := fun channel small =>
    sampleAt_of_inside (by omega)
  have first := told 0 (by decide)
  rw [Nat.add_zero] at first
  rw [colorAt, first, told 1 (by decide), told 2 (by decide), told 3 (by decide)]
  rfl

private theorem getElem?_bytes_color {samples : Block} {start channel : Nat} (inside : start + 4 ≤ samples.size)
    (small : channel < 4) :
    (samples.color start).bytes[channel]? = samples.bytes[start + channel]? := by
  rw [Block.getElem?_bytes, Block.byte?, if_pos (by omega)]
  obtain rfl | rfl | rfl | rfl : channel = 0 ∨ channel = 1 ∨ channel = 2 ∨ channel = 3 := by omega
  all_goals rfl

namespace Bitmap
variable {width height : Nat} {bitmap : Bitmap} {color : Nat → Nat → Color} {pixels : Block}
  {stride : Nat}

private theorem mem_positions {x y : Nat} : (x, y) ∈ positions width height ↔ x < width ∧ y < height := by
  simp only [positions, List.mem_flatMap, List.mem_map, List.mem_range, Prod.mk.injEq]
  constructor
  · rintro ⟨_, row, _, column, rfl, rfl⟩
    exact ⟨column, row⟩
  · rintro ⟨column, row⟩
    exact ⟨y, row, x, column, rfl, rfl⟩

private theorem length_positions : (positions width height).length = height * width := by
  rw [positions, length_flatMap_of_sized (fun _ _ => by rw [List.length_map, List.length_range]),
    List.length_range]

private theorem getElem?_positions {x y : Nat} (column : x < width) (row : y < height) :
    (positions width height)[y * width + x]? = some (x, y) := by
  have sized : ∀ row ∈ List.range height,
      ((List.range width).map fun x => (x, row)).length = width := fun _ _ => by
    rw [List.length_map, List.length_range]
  rw [positions, getElem?_flatMap_of_sized sized y column, List.getElem?_range row, Option.bind_some,
    List.getElem?_map, List.getElem?_range column]
  rfl

/-- The bitmap shows these colors. -/
def Shows (bitmap : Bitmap) (color : Nat → Nat → Color) : Prop :=
  ∀ x < bitmap.width, ∀ y < bitmap.height, bitmap.pixel x y = .ok (color x y)

private theorem toRgba8_eq (shows : bitmap.Shows color)
    (fits : bitmap.width * bitmap.height * 4 ≤ memoryLimit) :
    bitmap.toRgba8 = .ok ((positions bitmap.width bitmap.height).flatMap fun place =>
      (color place.1 place.2).bytes) := by
  -- All positions are inside, and so are those of any part of the list, which the induction is on.
  have collected : ∀ places : List (Nat × Nat),
      (∀ place ∈ places, place ∈ positions bitmap.width bitmap.height) →
      (places.mapM fun place => bitmap.pixel place.1 place.2) =
        .ok (places.map fun place => color place.1 place.2) := by
    intro places inside
    induction places with
    | nil => rfl
    | cons place rest ih =>
      obtain ⟨column, row⟩ := mem_positions.mp (inside place List.mem_cons_self)
      rw [List.mapM_cons, shows place.1 column place.2 row,
        ih fun other member => inside other (List.mem_cons_of_mem _ member)]
      rfl
  rw [toRgba8, reserve_of_le fits]
  show ((positions bitmap.width bitmap.height).mapM fun place => bitmap.pixel place.1 place.2) >>= _ = _
  rw [collected _ fun _ member => member]
  exact congrArg Except.ok (List.flatMap_map ..)

/-- Each sample of each pixel has its place. -/
theorem getElem?_toRgba8 (shows : bitmap.Shows color)
    (fits : bitmap.width * bitmap.height * 4 ≤ memoryLimit) :
    ∃ bytes, bitmap.toRgba8 = .ok bytes ∧ bytes.length = bitmap.height * bitmap.width * 4 ∧
      ∀ x < bitmap.width, ∀ y < bitmap.height, ∀ channel < 4,
        bytes[(y * bitmap.width + x) * 4 + channel]? = (color x y).bytes[channel]? := by
  have sized : ∀ place ∈ positions bitmap.width bitmap.height,
      (color place.1 place.2).bytes.length = 4 := fun _ _ => rfl
  refine ⟨_, toRgba8_eq shows fits, ?_, ?_⟩
  · rw [length_flatMap_of_sized sized, length_positions]
  · intro x column y row channel small
    rw [getElem?_flatMap_of_sized sized _ small, getElem?_positions column row, Option.bind_some]

/-- A bitmap that offers storage of four samples a pixel, from which it reads its colors. -/
structure OffersColors (bitmap : Bitmap) (pixels : Block) (stride : Nat) : Prop where
  offered : bitmap.layout = .rgba8 pixels stride
  apart : bitmap.width * 4 ≤ stride
  held : stride * bitmap.height ≤ pixels.size
  reads : ∀ x < bitmap.width, ∀ y < bitmap.height,
    bitmap.pixel x y = colorAt pixels (y * stride + x * 4)

/-- A bitmap that offers storage of one sample a pixel, which it shows as the first of each color. -/
structure OffersSamples (bitmap : Bitmap) (pixels : Block) (stride : Nat) : Prop where
  offered : bitmap.layout = .gray8 pixels stride
  apart : bitmap.width ≤ stride
  held : stride * bitmap.height ≤ pixels.size
  reads : ∀ x < bitmap.width, ∀ y < bitmap.height, ∃ color, bitmap.pixel x y = .ok color ∧
    sampleAt pixels (y * stride + x) = .ok color.red

/-- Unpacking a bitmap puts the rows of its storage together. -/
theorem OffersColors.toRgba8_eq (offers : bitmap.OffersColors pixels stride)
    (stored : pixels.size ≤ memoryLimit) :
    bitmap.toRgba8 = .ok (pixels.rows bitmap.height (bitmap.width * 4) stride) := by
  have inside : ∀ x < bitmap.width, ∀ y < bitmap.height, y * stride + x * 4 + 4 ≤ pixels.size := by
    intro x column y row
    have within := row_inside offers.apart offers.held row
    omega
  have shows : bitmap.Shows fun x y => pixels.color (y * stride + x * 4) := fun x column y row =>
    (offers.reads x column y row).trans (colorAt_of_inside (inside x column y row))
  have fits : bitmap.width * bitmap.height * 4 ≤ memoryLimit := by
    rw [Nat.mul_right_comm]
    exact rows_inside offers.apart (Nat.le_trans offers.held stored)
  obtain ⟨bytes, unpacked, length, placed⟩ := getElem?_toRgba8 shows fits
  rw [unpacked, Block.eq_rows offers.apart offers.held (length.trans (Nat.mul_assoc _ _ _))]
  intro row below offset short
  obtain ⟨x, column, channel, small, rfl⟩ := (ImageRegion.exists_pixel_iff bitmap.width).mp short
  have shown := placed x column row below channel small
  rw [getElem?_bytes_color (inside x column row below) small, Nat.add_mul, Nat.mul_assoc] at shown
  rw [← Nat.add_assoc, ← Nat.add_assoc, shown]

end Bitmap

/-- Pictures of four samples a pixel that there can be. -/
inductive RgbaImage.Drawn : RgbaImage → Prop where
  | blank (width height : Nat) : Drawn (.blank width height)
  | given {width height : Nat} {pixels : Bytes} {image : RgbaImage}
      (accepted : RgbaImage.ofPixels? width height pixels = some image) : Drawn image
  | put {image next : RgbaImage} {x y : Nat} {color : Color} (earlier : Drawn image)
      (accepted : image.put x y color = .ok next) : Drawn next

namespace RgbaImage.Drawn
variable {image : RgbaImage}

theorem size_pixels (drawn : image.Drawn) : image.pixels.size = image.width * image.height * 4 := by
  induction drawn with
  | blank => rfl
  | given accepted =>
    rw [ofPixels?] at accepted
    split at accepted
    · rename_i whole
      cases accepted
      rw [Block.size_ofBytes, whole]
    · cases accepted
  | put _ accepted ih =>
    rw [RgbaImage.put] at accepted
    split at accepted
    · cases accepted
      rw [Block.size_overwrite]
      exact ih
    · cases accepted

/-- Such a picture offers the storage that it shows. -/
theorem offers (drawn : image.Drawn) : image.bitmap.OffersColors image.pixels (image.width * 4) := by
  have held : image.width * 4 * image.height = image.pixels.size := by
    rw [drawn.size_pixels, Nat.mul_right_comm]
  refine ⟨rfl, Nat.le_refl _, Nat.le_of_eq held, ?_⟩
  intro x _ y _
  show image.pixel x y = _
  rw [RgbaImage.pixel, Nat.add_mul, Nat.mul_assoc]

end RgbaImage.Drawn

/-- Pictures of one sample a pixel that there can be. -/
inductive GrayImage.Drawn : GrayImage → Prop where
  | blank (width height : Nat) : Drawn (.blank width height)
  | given {width height : Nat} {pixels : Bytes} {image : GrayImage}
      (accepted : GrayImage.ofPixels? width height pixels = some image) : Drawn image
  | put {image next : GrayImage} {x y : Nat} {value : UInt8} (earlier : Drawn image)
      (accepted : image.put x y value = .ok next) : Drawn next

namespace GrayImage.Drawn
variable {image : GrayImage}

theorem size_pixels (drawn : image.Drawn) : image.pixels.size = image.width * image.height := by
  induction drawn with
  | blank => rfl
  | given accepted =>
    rw [ofPixels?] at accepted
    split at accepted
    · rename_i whole
      cases accepted
      rw [Block.size_ofBytes, whole]
    · cases accepted
  | put _ accepted ih =>
    rw [GrayImage.put] at accepted
    split at accepted
    · cases accepted
      rw [Block.size_overwrite]
      exact ih
    · cases accepted

/-- Such a picture offers the storage that it shows. -/
theorem offers (drawn : image.Drawn) : image.bitmap.OffersSamples image.pixels image.width := by
  have held : image.width * image.height ≤ image.pixels.size := Nat.le_of_eq drawn.size_pixels.symm
  refine ⟨rfl, Nat.le_refl _, held, ?_⟩
  intro x column y row
  have inside : y * image.width + x < image.pixels.size := by
    have within := row_inside (Nat.le_refl image.width) held row
    have short : x < image.width := column
    omega
  have told := sampleAt_of_inside inside
  generalize image.pixels.kept.cell (y * image.width + x) = value at told
  refine ⟨⟨value, value, value, 255⟩, ?_, told⟩
  show image.pixel x y = _
  rw [GrayImage.pixel, told]
  rfl

end GrayImage.Drawn
end Offload

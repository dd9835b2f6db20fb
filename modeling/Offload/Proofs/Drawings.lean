import Offload.Proofs.Bitmaps

/-! Drawing on pictures. Each pixel has samples of its own, so a pixel shows what was last put there,
whatever was put elsewhere. Unpacking a picture and filling one with the bytes undo each other. -/
namespace Offload

/-- Places in rows of one width are told apart by their numbers. -/
theorem place_inj {width x y column row : Nat} (inside : x < width) (beside : column < width)
    (same : y * width + x = row * width + column) : x = column ∧ y = row := by
  have columns : x = column := by
    have remainder := congrArg (· % width) same
    simpa [Nat.mul_add_mod', Nat.mod_eq_of_lt inside, Nat.mod_eq_of_lt beside] using remainder
  subst columns
  have rows : y * width = row * width := Nat.add_right_cancel same
  exact ⟨rfl, Nat.eq_of_mul_eq_mul_right (Nat.zero_lt_of_lt inside) rows⟩

/-- The samples of a pixel lie inside a picture of so many samples a pixel. -/
theorem place_inside {width height x y : Nat} (column : x < width) (row : y < height) (depth : Nat) :
    (y * width + x) * depth + depth ≤ width * height * depth := by
  have within := row_inside (Nat.le_refl width) (Nat.le_refl (width * height)) row
  calc (y * width + x) * depth + depth
    _ = (y * width + x + 1) * depth := (Nat.succ_mul _ _).symm
    _ ≤ width * height * depth := Nat.mul_le_mul_right depth (by omega)

theorem Bytes.getD_zeros (size index : Nat) : (Bytes.zeros size).getD index 0 = 0 := by
  rw [List.getD_eq_getElem?_getD, Bytes.zeros, List.getElem?_replicate]
  split <;> rfl

/-- The color whose samples stand from a position on. -/
def Bytes.color (pixels : Bytes) (start : Nat) : Color :=
  ⟨pixels.getD start 0, pixels.getD (start + 1) 0, pixels.getD (start + 2) 0, pixels.getD (start + 3) 0⟩

section
variable {samples data : Block} {start : Nat}

theorem sampleAt_bytes {index : Nat} (inside : index < samples.size) :
    sampleAt samples index = .ok (samples.bytes.getD index 0) := by
  rw [sampleAt_of_inside inside, List.getD_eq_getElem?_getD, Block.getElem?_bytes, Block.byte?,
    if_pos inside]
  rfl

theorem colorAt_bytes (inside : start + 4 ≤ samples.size) :
    colorAt samples start = .ok (samples.bytes.color start) := by
  rw [colorAt, sampleAt_bytes (by omega), sampleAt_bytes (by omega), sampleAt_bytes (by omega),
    sampleAt_bytes (by omega)]
  rfl

/-- A color is read where its four bytes are. -/
theorem Bytes.color_of_window {pixels : Bytes} {color : Color} (placed : pixels.window start 4 = color.bytes) :
    pixels.color start = color := by
  have told : ∀ channel < 4, pixels[start + channel]? = color.bytes[channel]? := by
    intro channel small
    rw [← placed, Bytes.getElem?_window, if_pos small]
  have first := told 0 (by omega)
  rw [Nat.add_zero] at first
  simp only [Bytes.color, List.getD_eq_getElem?_getD, first, told 1 (by omega), told 2 (by omega),
    told 3 (by omega)]
  rfl

/-- What was put into samples is read in its place, and all others are as they were. -/
theorem sampleAt_overwrite (fits : start + data.size ≤ samples.size) (index : Nat) :
    sampleAt (samples.overwrite start data) index =
      if Covers start data.size index then sampleAt data (index - start) else sampleAt samples index := by
  by_cases covered : Covers start data.size index
  · obtain ⟨after, before⟩ := covered
    have inside : index < samples.size := by omega
    have within : index - start < data.size := by omega
    have kept : index < (samples.overwrite start data).size := inside
    rw [if_pos ⟨after, before⟩, sampleAt_of_inside within, sampleAt_of_inside kept,
      Block.cell_overwrite _ _ _ _ inside, if_pos ⟨after, before⟩]
  · rw [if_neg covered, sampleAt, sampleAt, ← Block.getElem?_bytes, ← Block.getElem?_bytes,
      Block.getElem?_bytes_overwrite fits, if_neg covered, Block.size_overwrite]

/-- Colors that stand apart do not touch each other. -/
theorem colorAt_overwrite_of_apart {place other : Nat} (fits : place * 4 + data.size ≤ samples.size)
    (sized : data.size = 4) (apart : other ≠ place) :
    colorAt (samples.overwrite (place * 4) data) (other * 4) = colorAt samples (other * 4) := by
  have uncovered : ∀ channel < 4, ¬ Covers (place * 4) data.size (other * 4 + channel) := by
    intro channel small covered
    obtain ⟨after, before⟩ := covered
    omega
  have kept : ∀ channel < 4, sampleAt (samples.overwrite (place * 4) data) (other * 4 + channel) =
      sampleAt samples (other * 4 + channel) := by
    intro channel small
    rw [sampleAt_overwrite fits, if_neg (uncovered channel small)]
  have first := kept 0 (by omega)
  rw [Nat.add_zero] at first
  rw [colorAt, colorAt, first, kept 1 (by omega), kept 2 (by omega), kept 3 (by omega)]

end

/-- A value for the pixel in a column and a row. -/
structure Mark (Value : Type) where
  x : Nat
  y : Nat
  value : Value

namespace Mark
variable {Value : Type}

/-- Whether a mark is for this pixel. -/
def isAt (mark : Mark Value) (x y : Nat) : Bool := mark.x == x && mark.y == y

theorem isAt_iff {mark : Mark Value} {x y : Nat} : mark.isAt x y = true ↔ mark.x = x ∧ mark.y = y := by
  simp [isAt]

def Inside (mark : Mark Value) (bitmap : Bitmap) : Prop := mark.x < bitmap.width ∧ mark.y < bitmap.height

/-- The value of the last mark for a pixel, if there is one. -/
def last? (marks : List (Mark Value)) (x y : Nat) : Option Value :=
  (marks.reverse.find? (·.isAt x y)).map Mark.value

private theorem last?_cons (mark : Mark Value) (rest : List (Mark Value)) (x y : Nat) :
    last? (mark :: rest) x y = (last? rest x y).or (if mark.isAt x y then some mark.value else none) := by
  rw [last?, last?, List.reverse_cons, List.find?_append]
  cases rest.reverse.find? (·.isAt x y) with
  | some later => rfl
  | none => cases here : mark.isAt x y <;> simp [here]

end Mark

/-- A sort of picture: how one is made, drawn on and looked at. -/
structure Medium (Picture Value : Type) where
  /-- The number of samples of a pixel. -/
  depth : Nat
  make : (width height : Nat) → Except Fault Picture
  ofPixels? : (width height : Nat) → Bytes → Option Picture
  put : Picture → (x y : Nat) → Value → Except Fault Picture
  bitmap : Picture → Bitmap
  /-- The value of each pixel of a blank picture. -/
  clear : Value
  /-- The value whose samples stand from a position on. -/
  stored : Bytes → (start : Nat) → Value
  /-- The color that a value shows as. -/
  color : Value → Color

namespace Medium

def gray : Medium GrayImage UInt8 where
  depth := 1
  make := GrayImage.make
  ofPixels? := GrayImage.ofPixels?
  put := GrayImage.put
  bitmap := GrayImage.bitmap
  clear := 0
  stored pixels start := pixels.getD start 0
  color value := ⟨value, value, value, 255⟩

def rgba : Medium RgbaImage Color where
  depth := 4
  make := RgbaImage.make
  ofPixels? := RgbaImage.ofPixels?
  put := RgbaImage.put
  bitmap := RgbaImage.bitmap
  clear := ⟨0, 0, 0, 0⟩
  stored := Bytes.color
  color := id

variable {Picture Value : Type} {medium : Medium Picture Value} {picture : Picture}

/-- Puts several marks, one after the other, up to the first fault. -/
def putAll (medium : Medium Picture Value) (picture : Picture) (marks : List (Mark Value)) :
    Except Fault Picture :=
  marks.foldlM (fun picture mark => medium.put picture mark.x mark.y mark.value) picture

/-- A mark has been put: its pixel shows it, and all others show what they did. -/
structure Takes (medium : Medium Picture Value) (picture : Picture) (mark : Mark Value)
    (next : Picture) : Prop where
  accepted : medium.put picture mark.x mark.y mark.value = .ok next
  width_eq : (medium.bitmap next).width = (medium.bitmap picture).width
  height_eq : (medium.bitmap next).height = (medium.bitmap picture).height
  shown : (medium.bitmap next).pixel mark.x mark.y = .ok (medium.color mark.value)
  others : ∀ x < (medium.bitmap picture).width, ∀ y, ¬ mark.isAt x y = true →
    (medium.bitmap next).pixel x y = (medium.bitmap picture).pixel x y

/-- A picture of this size that begins with these colors and can be drawn on: whatever marks are put
inside it, each pixel shows the value of the last one for it, and its first color if there is none. -/
structure Drawable (medium : Medium Picture Value) (picture : Picture) (width height : Nat)
    (initial : Nat → Nat → Color) : Prop where
  width_eq : (medium.bitmap picture).width = width
  height_eq : (medium.bitmap picture).height = height
  drawn : ∀ marks : List (Mark Value), (∀ mark ∈ marks, mark.Inside (medium.bitmap picture)) →
    ∃ next, medium.putAll picture marks = .ok next ∧
      (medium.bitmap next).width = width ∧ (medium.bitmap next).height = height ∧
      (medium.bitmap next).Shows fun x y =>
        ((Mark.last? marks x y).map medium.color).getD (initial x y)

/-- A mark changes the colors of a picture in one place. -/
theorem Takes.shows {mark : Mark Value} {next : Picture} {initial : Nat → Nat → Color}
    (takes : medium.Takes picture mark next) (shows : (medium.bitmap picture).Shows initial) :
    (medium.bitmap next).Shows fun x y =>
      if mark.isAt x y then medium.color mark.value else initial x y := by
  intro x column y row
  rw [takes.width_eq] at column
  rw [takes.height_eq] at row
  by_cases here : mark.isAt x y = true
  · obtain ⟨rfl, rfl⟩ := Mark.isAt_iff.mp here
    simpa only [here, if_true] using takes.shown
  · rw [takes.others x column y here, shows x column y row]
    simp only [here, Bool.false_eq_true, if_false]

/-- What one mark does, many do one after the other. -/
theorem drawable_of_takes {Whole : Picture → Prop}
    (step : ∀ picture, Whole picture → ∀ mark : Mark Value, mark.Inside (medium.bitmap picture) →
      ∃ next, Whole next ∧ medium.Takes picture mark next)
    (whole : Whole picture) {initial : Nat → Nat → Color}
    (shows : (medium.bitmap picture).Shows initial) :
    medium.Drawable picture (medium.bitmap picture).width (medium.bitmap picture).height initial := by
  refine ⟨rfl, rfl, ?_⟩
  intro marks inside
  -- What the picture shows at first changes with every mark.
  induction marks generalizing picture initial with
  | nil => exact ⟨picture, rfl, rfl, rfl, shows⟩
  | cons mark rest ih =>
    obtain ⟨next, kept, takes⟩ := step picture whole mark (inside mark List.mem_cons_self)
    have within : ∀ other ∈ rest, other.Inside (medium.bitmap next) := by
      intro other member
      rw [Mark.Inside, takes.width_eq, takes.height_eq]
      exact inside other (List.mem_cons_of_mem _ member)
    obtain ⟨drawn, accepted, width, height, seen⟩ := ih kept (takes.shows shows) within
    refine ⟨drawn, ?_, width.trans takes.width_eq, height.trans takes.height_eq, ?_⟩
    · rw [putAll, List.foldlM_cons, takes.accepted]
      exact accepted
    · intro x column y row
      rw [seen x column y row]
      simp only [Mark.last?_cons]
      cases Mark.last? rest x y with
      | some later => rfl
      | none => cases here : mark.isAt x y <;> rfl

/-- A sort of picture that is an array of pixels: it is made of exactly as many samples as its pixels
have, and keeps what is put into each. -/
structure Faithful (medium : Medium Picture Value) : Prop where
  accepts_iff : ∀ width height pixels, (∃ picture, medium.ofPixels? width height pixels = some picture) ↔
    pixels.length = medium.depth * width * height
  blank : ∀ width height, medium.depth * width * height ≤ memoryLimit →
    ∃ picture, medium.make width height = .ok picture ∧
      medium.Drawable picture width height fun _ _ => medium.color medium.clear
  large : ∀ width height, memoryLimit < medium.depth * width * height →
    medium.make width height = .error .tooLarge
  given : ∀ width height pixels, ∀ picture ∈ medium.ofPixels? width height pixels,
    medium.Drawable picture width height fun x y =>
      medium.color (medium.stored pixels ((y * width + x) * medium.depth))

end Medium

namespace GrayImage
variable {image : GrayImage} {width height : Nat} {pixels : Bytes}

private theorem make_of_le (fits : width * height ≤ memoryLimit) :
    make width height = .ok (blank width height) := by
  rw [make, reserve_of_le fits]
  rfl

private theorem make_of_lt (large : memoryLimit < width * height) : make width height = .error .tooLarge := by
  rw [make, reserve_of_lt large]
  rfl

private theorem ofPixels?_eq_some : ofPixels? width height pixels = some image ↔
    pixels.length = width * height ∧ image = ⟨width, height, .ofBytes pixels⟩ := by
  rw [ofPixels?]
  split
  · simp_all [eq_comm]
  · simp_all

namespace Drawn

theorem inside (drawn : image.Drawn) {x y : Nat} (column : x < image.width) (row : y < image.height) :
    y * image.width + x < image.pixels.size := by
  have within := place_inside column row 1
  rw [drawn.size_pixels]
  omega

private theorem shows (drawn : image.Drawn) : image.bitmap.Shows fun x y =>
    Medium.gray.color (image.pixels.bytes.getD (y * image.width + x) 0) := by
  intro x column y row
  show image.pixel x y = _
  rw [GrayImage.pixel, sampleAt_bytes (drawn.inside column row)]
  rfl

private theorem takes (drawn : image.Drawn) (mark : Mark UInt8) (inside : mark.Inside image.bitmap) :
    ∃ next : GrayImage, next.Drawn ∧ Medium.gray.Takes image mark next := by
  obtain ⟨column, row⟩ := inside
  have short : mark.x < image.width := column
  have place := drawn.inside column row
  have sized : (Block.ofBytes [mark.value]).size = 1 := Block.size_ofBytes _
  have fits : mark.y * image.width + mark.x + (Block.ofBytes [mark.value]).size ≤ image.pixels.size := by
    omega
  have accepted : image.put mark.x mark.y mark.value = .ok ⟨image.width, image.height,
      image.pixels.overwrite (mark.y * image.width + mark.x) (.ofBytes [mark.value])⟩ := by
    simp only [GrayImage.put, if_pos place]
  refine ⟨_, .put drawn accepted, accepted, rfl, rfl, ?_, ?_⟩
  · show (sampleAt (image.pixels.overwrite _ _) (mark.y * image.width + mark.x) >>= _) = _
    rw [sampleAt_overwrite fits, if_pos ⟨Nat.le_refl _, by omega⟩, Nat.sub_self, sampleAt_bytes (by omega),
      Block.bytes_ofBytes]
    rfl
  · intro x within y elsewhere
    have uncovered : ¬ Covers (mark.y * image.width + mark.x) (Block.ofBytes [mark.value]).size
        (y * image.width + x) := by
      intro covered
      obtain ⟨after, before⟩ := covered
      exact elsewhere (Mark.isAt_iff.mpr (place_inj short within (by omega)))
    show (sampleAt (image.pixels.overwrite _ _) (y * image.width + x) >>= _) = image.pixel x y
    rw [sampleAt_overwrite fits, if_neg uncovered]
    rfl

private theorem drawable (drawn : image.Drawn) {initial : Nat → Nat → Color}
    (shows : image.bitmap.Shows initial) :
    Medium.gray.Drawable image image.width image.height initial :=
  Medium.drawable_of_takes (fun _ whole mark inside => whole.takes mark inside) drawn shows

end Drawn
end GrayImage

theorem Medium.gray_faithful : Medium.gray.Faithful := by
  have whole (width height : Nat) : Medium.gray.depth * width * height = width * height := by
    rw [Medium.gray, Nat.one_mul]
  constructor
  · intro width height pixels
    rw [whole]
    constructor
    · rintro ⟨image, made⟩
      exact (GrayImage.ofPixels?_eq_some.mp made).1
    · intro filled
      exact ⟨_, GrayImage.ofPixels?_eq_some.mpr ⟨filled, rfl⟩⟩
  · intro width height fits
    refine ⟨_, GrayImage.make_of_le (whole width height ▸ fits), ?_⟩
    have drawn := GrayImage.Drawn.blank width height
    have zero : ∀ place, (GrayImage.blank width height).pixels.bytes.getD place 0 = 0 := by
      intro place
      rw [GrayImage.blank, Block.bytes_zeros, Bytes.getD_zeros]
    have shows := drawn.shows
    simp only [zero] at shows
    exact drawn.drawable shows
  · intro width height large
    exact GrayImage.make_of_lt (whole width height ▸ large)
  · intro width height pixels image made
    have drawn := GrayImage.Drawn.given made
    have shows := drawn.shows
    obtain ⟨_, rfl⟩ := GrayImage.ofPixels?_eq_some.mp made
    simp only [Block.bytes_ofBytes] at shows
    have drawable := drawn.drawable shows
    simpa only [Medium.gray, Nat.mul_one] using drawable

namespace RgbaImage
variable {image : RgbaImage} {width height : Nat} {pixels : Bytes}

private theorem make_of_le (fits : width * height * 4 ≤ memoryLimit) :
    make width height = .ok (blank width height) := by
  rw [make, reserve_of_le fits]
  rfl

private theorem make_of_lt (large : memoryLimit < width * height * 4) : make width height = .error .tooLarge := by
  rw [make, reserve_of_lt large]
  rfl

theorem ofPixels?_eq_some : ofPixels? width height pixels = some image ↔
    pixels.length = width * height * 4 ∧ image = ⟨width, height, .ofBytes pixels⟩ := by
  rw [ofPixels?]
  split
  · simp_all [eq_comm]
  · simp_all

namespace Drawn

theorem inside (drawn : image.Drawn) {x y : Nat} (column : x < image.width) (row : y < image.height) :
    (y * image.width + x) * 4 + 4 ≤ image.pixels.size := by
  rw [drawn.size_pixels]
  exact place_inside column row 4

theorem shows (drawn : image.Drawn) : image.bitmap.Shows fun x y =>
    image.pixels.bytes.color ((y * image.width + x) * 4) := by
  intro x column y row
  exact colorAt_bytes (drawn.inside column row)

private theorem takes (drawn : image.Drawn) (mark : Mark Color) (inside : mark.Inside image.bitmap) :
    ∃ next : RgbaImage, next.Drawn ∧ Medium.rgba.Takes image mark next := by
  obtain ⟨column, row⟩ := inside
  have short : mark.x < image.width := column
  have place := drawn.inside column row
  have sized : (Block.ofBytes mark.value.bytes).size = 4 := Block.size_ofBytes _
  have fits : (mark.y * image.width + mark.x) * 4 + (Block.ofBytes mark.value.bytes).size ≤
      image.pixels.size := by
    omega
  have accepted : image.put mark.x mark.y mark.value = .ok ⟨image.width, image.height,
      image.pixels.overwrite ((mark.y * image.width + mark.x) * 4) (.ofBytes mark.value.bytes)⟩ := by
    simp only [RgbaImage.put, if_pos place]
  refine ⟨_, .put drawn accepted, accepted, rfl, rfl, ?_, ?_⟩
  · show colorAt (image.pixels.overwrite _ _) ((mark.y * image.width + mark.x) * 4) = .ok mark.value
    have length : (Block.ofBytes mark.value.bytes).bytes.length = 4 := by rw [Block.bytes_ofBytes]; rfl
    have placed := Bytes.window_overwrite image.pixels.bytes ((mark.y * image.width + mark.x) * 4)
      (Block.ofBytes mark.value.bytes).bytes (by rw [Block.length_bytes, Block.length_bytes]; exact fits)
    rw [length, ← Block.bytes_overwrite, Block.bytes_ofBytes] at placed
    rw [colorAt_bytes (by exact place), Bytes.color_of_window placed]
  · intro x within y elsewhere
    have apart : y * image.width + x ≠ mark.y * image.width + mark.x := by
      intro same
      exact elsewhere (Mark.isAt_iff.mpr (place_inj short within same.symm))
    exact colorAt_overwrite_of_apart fits sized apart

private theorem drawable (drawn : image.Drawn) {initial : Nat → Nat → Color}
    (shows : image.bitmap.Shows initial) :
    Medium.rgba.Drawable image image.width image.height initial :=
  Medium.drawable_of_takes (fun _ whole mark inside => whole.takes mark inside) drawn shows

end Drawn
end RgbaImage

theorem Medium.rgba_faithful : Medium.rgba.Faithful := by
  have whole (width height : Nat) : Medium.rgba.depth * width * height = width * height * 4 := by
    rw [Nat.mul_assoc, Nat.mul_comm, Medium.rgba]
  constructor
  · intro width height pixels
    rw [whole]
    constructor
    · rintro ⟨image, made⟩
      exact (RgbaImage.ofPixels?_eq_some.mp made).1
    · intro filled
      exact ⟨_, RgbaImage.ofPixels?_eq_some.mpr ⟨filled, rfl⟩⟩
  · intro width height fits
    refine ⟨_, RgbaImage.make_of_le (whole width height ▸ fits), ?_⟩
    have drawn := RgbaImage.Drawn.blank width height
    have zero : ∀ place, (RgbaImage.blank width height).pixels.bytes.color place = ⟨0, 0, 0, 0⟩ := by
      intro place
      simp only [RgbaImage.blank, Block.bytes_zeros, Bytes.color, Bytes.getD_zeros]
    have shows := drawn.shows
    simp only [zero] at shows
    exact drawn.drawable shows
  · intro width height large
    exact RgbaImage.make_of_lt (whole width height ▸ large)
  · intro width height pixels image made
    have drawn := RgbaImage.Drawn.given made
    have shows := drawn.shows
    obtain ⟨_, rfl⟩ := RgbaImage.ofPixels?_eq_some.mp made
    simp only [Block.bytes_ofBytes] at shows
    exact drawn.drawable shows

/-- A bitmap unpacks into the bytes of its colors, and a picture that is made of them shows the same
colors. -/
theorem Bitmap.toRgba8_fills {bitmap : Bitmap} {color : Nat → Nat → Color} (shows : bitmap.Shows color)
    (fits : 4 * bitmap.width * bitmap.height ≤ memoryLimit) :
    ∃ bytes, bitmap.toRgba8 = .ok bytes ∧ bytes.length = 4 * bitmap.width * bitmap.height ∧
      (∀ x < bitmap.width, ∀ y < bitmap.height,
        bytes.window (4 * (y * bitmap.width + x)) 4 = (color x y).bytes) ∧
      ∃ image, RgbaImage.ofPixels? bitmap.width bitmap.height bytes = some image ∧
        image.width = bitmap.width ∧ image.height = bitmap.height ∧ image.bitmap.Shows color := by
  obtain ⟨bytes, unpacked, length, placed⟩ := getElem?_toRgba8 shows
    (by rwa [Nat.mul_comm, ← Nat.mul_assoc])
  have windows : ∀ x < bitmap.width, ∀ y < bitmap.height,
      bytes.window ((y * bitmap.width + x) * 4) 4 = (color x y).bytes := by
    intro x column y row
    apply List.ext_getElem?
    intro channel
    rw [Bytes.getElem?_window]
    by_cases small : channel < 4
    · rw [if_pos small, placed x column y row channel small]
    · rw [if_neg small, List.getElem?_eq_none (Nat.le_of_not_lt small)]
  have filled : bytes.length = bitmap.width * bitmap.height * 4 := by
    rw [length, Nat.mul_comm bitmap.height]
  have made := RgbaImage.ofPixels?_eq_some.mpr ⟨filled, rfl⟩
  refine ⟨bytes, unpacked, ?_, ?_, _, made, rfl, rfl, ?_⟩
  · rw [filled, Nat.mul_assoc 4, Nat.mul_comm]
  · intro x column y row
    rw [Nat.mul_comm]
    exact windows x column y row
  · have seen := (RgbaImage.Drawn.given made).shows
    intro x column y row
    rw [seen x column y row, Block.bytes_ofBytes]
    exact congrArg Except.ok (Bytes.color_of_window (windows x column y row))

/-- Pictures of either sort are arrays of pixels. They are made of exactly as many bytes as their pixels
have, and after any marks inside them each pixel shows the last one for it, or else what it showed at
first. Unpacking gives the colors of a bitmap row by row, if memory can hold them; it undoes the making
of a picture from bytes, and making a picture from unpacked bytes gives one with the same pixels. -/
theorem pictures_faithful :
    Medium.gray.Faithful ∧ Medium.rgba.Faithful ∧
    (∀ (bitmap : Bitmap) (color : Nat → Nat → Color), bitmap.Shows color →
      4 * bitmap.width * bitmap.height ≤ memoryLimit →
      ∃ bytes, bitmap.toRgba8 = .ok bytes ∧ bytes.length = 4 * bitmap.width * bitmap.height ∧
        (∀ x < bitmap.width, ∀ y < bitmap.height,
          bytes.window (4 * (y * bitmap.width + x)) 4 = (color x y).bytes) ∧
        ∃ image, RgbaImage.ofPixels? bitmap.width bitmap.height bytes = some image ∧
          image.width = bitmap.width ∧ image.height = bitmap.height ∧ image.bitmap.Shows color) ∧
    ∀ (width height : Nat) (pixels : Bytes) (image : RgbaImage),
      RgbaImage.ofPixels? width height pixels = some image → pixels.length ≤ memoryLimit →
        image.bitmap.toRgba8 = .ok pixels := by
  refine ⟨Medium.gray_faithful, Medium.rgba_faithful,
    fun _ _ shows fits => Bitmap.toRgba8_fills shows fits, ?_⟩
  intro width height pixels image made stored
  have offers := (RgbaImage.Drawn.given made).offers
  obtain ⟨filled, rfl⟩ := RgbaImage.ofPixels?_eq_some.mp made
  have unpacked := offers.toRgba8_eq (Nat.le_trans (Nat.le_of_eq (Block.size_ofBytes pixels)) stored)
  have whole : pixels.length = height * (width * 4) := by
    rw [filled, Nat.mul_comm width, Nat.mul_assoc]
  rw [unpacked]
  exact congrArg Except.ok (Block.rows_ofBytes whole)

/-- Three marks on two pixels of four, the second of which is marked again. -/
def repainting : List (Mark Color) :=
  [⟨1, 0, ⟨1, 2, 3, 4⟩⟩, ⟨0, 1, ⟨5, 6, 7, 8⟩⟩, ⟨1, 0, ⟨9, 8, 7, 6⟩⟩]

theorem repainting_shown :
    (∃ picture next, Medium.rgba.make 2 2 = .ok picture ∧
      Medium.rgba.putAll picture repainting = .ok next ∧
      next.pixel 1 0 = .ok ⟨9, 8, 7, 6⟩ ∧ next.pixel 0 1 = .ok ⟨5, 6, 7, 8⟩ ∧
      next.pixel 1 1 = .ok ⟨0, 0, 0, 0⟩) ∧
    ∃ image, RgbaImage.ofPixels? 1 2 [3, 3, 3, 255, 4, 4, 4, 255] = some image ∧
      image.pixel 0 1 = .ok ⟨4, 4, 4, 255⟩ := by
  obtain ⟨_, faithful, unpacking, _⟩ := pictures_faithful
  constructor
  · obtain ⟨picture, made, drawable⟩ := faithful.blank 2 2 (by decide)
    have inside : ∀ mark ∈ repainting, mark.Inside (Medium.rgba.bitmap picture) := by
      intro mark member
      rw [Mark.Inside, drawable.width_eq, drawable.height_eq]
      simp only [repainting, List.mem_cons, List.not_mem_nil, or_false] at member
      rcases member with rfl | rfl | rfl <;> exact ⟨by decide, by decide⟩
    obtain ⟨next, accepted, width, height, shown⟩ := drawable.drawn repainting inside
    have seen : ∀ x < 2, ∀ y < 2, next.pixel x y =
        .ok (((Mark.last? repainting x y).map Medium.rgba.color).getD ⟨0, 0, 0, 0⟩) := by
      intro x column y row
      exact shown x (width ▸ column) y (height ▸ row)
    exact ⟨picture, next, made, accepted, seen 1 (by decide) 0 (by decide), seen 0 (by decide) 1 (by decide),
      seen 1 (by decide) 1 (by decide)⟩
  · have shows : (GrayImage.bitmap ⟨1, 2, .ofBytes [3, 4]⟩).Shows fun _ y =>
        if y = 0 then ⟨3, 3, 3, 255⟩ else ⟨4, 4, 4, 255⟩ := by
      intro x column y row
      have first : x = 0 := Nat.lt_one_iff.mp column
      have either : y = 0 ∨ y = 1 := by
        have small : y < 2 := row
        omega
      subst first
      rcases either with rfl | rfl <;> rfl
    obtain ⟨bytes, unpacked, _, _, image, made, width, height, same⟩ := unpacking _ _ shows (by decide)
    have told : (GrayImage.bitmap ⟨1, 2, .ofBytes [3, 4]⟩).toRgba8 =
        .ok [3, 3, 3, 255, 4, 4, 4, 255] := rfl
    cases told.symm.trans unpacked
    have wide : 0 < image.width := Nat.lt_of_lt_of_eq (by decide) width.symm
    have high : 1 < image.height := Nat.lt_of_lt_of_eq (by decide) height.symm
    exact ⟨image, made, same 0 wide 1 high⟩

end Offload

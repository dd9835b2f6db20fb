import Offload.Proofs.ImageBounds
import Offload.Proofs.Patches
import Offload.Proofs.Submissions
import Offload.Proofs.WellFormed

/-! Transfers between host memory and a rectangle of an image. Three distances play a part: the
one between rows in host memory, the one between rows of the image, and the length of a row. A
transfer copies each byte of each pixel from its place on one side to its place on the other, and
touches nothing between the rows. -/
namespace Offload

namespace RowPlan
variable (plan : RowPlan) {host device : Block}

/-- A host byte and a device byte at the same place of the same row. -/
def Pairs (host device : Nat) : Prop :=
  ∃ row < plan.count, ∃ offset < plan.length,
    host = row * plan.hostPitch + offset ∧ device = plan.deviceStart + row * plan.devicePitch + offset

/-- The rows lie apart and inside the memories on either side. -/
structure Fits (hostSize deviceSize : Nat) : Prop where
  hostApart : plan.length ≤ plan.hostPitch
  deviceApart : plan.length ≤ plan.devicePitch
  held : ∀ row < plan.count, row * plan.hostPitch + plan.length ≤ hostSize
  placed : ∀ row < plan.count, plan.deviceStart + row * plan.devicePitch + plan.length ≤ deviceSize

variable {plan}

theorem conveys_upload (fits : plan.Fits host.size device.size) :
    Block.Conveys plan.Pairs host device (device.patch (plan.upload host)) := by
  have pieces : plan.upload host = (List.range plan.count).map fun row =>
      (plan.deviceStart + row * plan.devicePitch, host.read (row * plan.hostPitch) plan.length) :=
    List.map_map
  obtain ⟨shown, kept⟩ := Block.getElem?_patch_rows
    (fun row => host.read (row * plan.hostPitch) plan.length)
    fits.deviceApart (fun _ _ => rfl) fits.placed
  rw [pieces]
  constructor
  · rintro _ _ ⟨row, below, offset, short, rfl, rfl⟩
    rw [shown row below offset short, Block.getElem?_bytes_read (fits.held row below), if_pos short]
  · intro position alone
    apply kept
    rintro row below ⟨start, stop⟩
    exact alone (row * plan.hostPitch + (position - (plan.deviceStart + row * plan.devicePitch)))
      ⟨row, below, _, by omega, rfl, by omega⟩

private theorem conveys_fetch (fits : plan.Fits host.size device.size) :
    Block.Conveys (fun device host => plan.Pairs host device) device host
      (host.patch (plan.fetch device)) := by
  have pieces : plan.fetch device = (List.range plan.count).map fun row =>
      (0 + row * plan.hostPitch,
        device.window (plan.deviceStart + row * plan.devicePitch) plan.length) := by
    simp only [Nat.zero_add]
    exact List.map_map
  obtain ⟨shown, kept⟩ := Block.getElem?_patch_rows
    (fun row => device.window (plan.deviceStart + row * plan.devicePitch) plan.length)
    fits.hostApart (fun row below => Block.size_window_of_fits (fits.placed row below))
    (fun row below => by rw [Nat.zero_add]; exact fits.held row below)
  rw [pieces]
  simp only [Nat.zero_add] at shown kept ⊢
  constructor
  · rintro _ _ ⟨row, below, offset, short, rfl, rfl⟩
    rw [shown row below offset short, Block.getElem?_bytes_window, if_pos short]
  · intro position alone
    apply kept
    rintro row below ⟨start, stop⟩
    exact alone (plan.deviceStart + row * plan.devicePitch + (position - row * plan.hostPitch))
      ⟨row, below, _, by omega, by omega, rfl⟩

end RowPlan

/-- Where a byte of a pixel lies in an image. -/
def Simulator.ImageShape.index (shape : Simulator.ImageShape) (column row byte : Nat) : Nat :=
  (row * shape.width + column) * shape.pixel + byte

namespace ImageRegion
open Simulator
variable {region : ImageRegion} {shape : ImageShape}

/-- The distance between the rows of a region in host memory. -/
def pitch (region : ImageRegion) (pixel : Nat) : Nat :=
  if region.rowPitch = 0 then region.extent.x * pixel else region.rowPitch

/-- Where a byte of a pixel of a region lies in host memory. -/
def hostIndex (region : ImageRegion) (pixel column row byte : Nat) : Nat :=
  row * region.pitch pixel + column * pixel + byte

/-- A rectangle inside a two-dimensional image, with rows in host memory that do not overlap. -/
structure Fits (region : ImageRegion) (shape : ImageShape) : Prop where
  flat : region.origin.z = 0 ∧ region.extent.z = 1
  columns : region.origin.x + region.extent.x ≤ shape.width
  rows : region.origin.y + region.extent.y ≤ shape.height
  pitched : region.rowPitch = 0 ∨ region.extent.x * shape.pixel ≤ region.rowPitch

/-- The host byte and the byte of an image that belong to the same pixel of a region. -/
def Pairs (region : ImageRegion) (shape : ImageShape) (host device : Nat) : Prop :=
  ∃ column < region.extent.x, ∃ row < region.extent.y, ∃ byte < shape.pixel,
    host = region.hostIndex shape.pixel column row byte ∧
    device = shape.index (region.origin.x + column) (region.origin.y + row) byte

/-- The rows of a region in host memory and in an image. -/
def plan (region : ImageRegion) (shape : ImageShape) : RowPlan :=
  { region.hostRows shape.pixel with
    deviceStart := region.origin.y * (shape.width * shape.pixel) + region.origin.x * shape.pixel
    devicePitch := shape.width * shape.pixel }

/-- The bytes of a row are those of its pixels. -/
theorem exists_pixel_iff {pixel offset : Nat} (columns : Nat) :
    offset < columns * pixel ↔ ∃ column < columns, ∃ byte < pixel, offset = column * pixel + byte := by
  constructor
  · intro inside
    have sized : 0 < pixel := Nat.pos_of_mul_pos_left (Nat.lt_of_le_of_lt (Nat.zero_le offset) inside)
    refine ⟨offset / pixel, Nat.div_lt_of_lt_mul ?_, offset % pixel, Nat.mod_lt offset sized, ?_⟩
    · rwa [Nat.mul_comm]
    · rw [Nat.mul_comm, Nat.div_add_mod]
  · rintro ⟨column, inside, byte, small, rfl⟩
    have next : (column + 1) * pixel ≤ columns * pixel := Nat.mul_le_mul_right pixel inside
    rw [Nat.succ_mul] at next
    omega

theorem plan_pairs_iff (host device : Nat) :
    region.Pairs shape host device ↔ (region.plan shape).Pairs host device := by
  have located : ∀ column row byte, shape.index (region.origin.x + column) (region.origin.y + row) byte =
      region.origin.y * (shape.width * shape.pixel) + region.origin.x * shape.pixel +
        row * (shape.width * shape.pixel) + (column * shape.pixel + byte) := by
    intro column row byte
    simp only [ImageShape.index, Nat.add_mul, Nat.mul_assoc]
    omega
  constructor
  · rintro ⟨column, wide, row, high, byte, small, rfl, rfl⟩
    refine ⟨row, high, column * shape.pixel + byte, ?_, Nat.add_assoc _ _ _, located column row byte⟩
    exact (exists_pixel_iff region.extent.x).mpr ⟨column, wide, byte, small, rfl⟩
  · rintro ⟨row, high, offset, inside, rfl, rfl⟩
    obtain ⟨column, wide, byte, small, rfl⟩ := (exists_pixel_iff region.extent.x).mp inside
    exact ⟨column, wide, row, high, byte, small, (Nat.add_assoc _ _ _).symm, (located column row byte).symm⟩

private theorem length_le_pitch (fits : region.Fits shape) :
    region.extent.x * shape.pixel ≤ region.pitch shape.pixel := by
  have pitched := fits.pitched
  rw [pitch]
  split <;> omega

/-- Host memory that covers a region without slices holds its rows. -/
theorem Fits.plan_fits (fits : region.Fits shape) (free : region.slicePitch = 0) {hostSize deviceSize : Nat}
    (covered : region.hostLength shape.pixel ≤ hostSize)
    (filled : deviceSize = shape.width * shape.height * shape.pixel) :
    (region.plan shape).Fits hostSize deviceSize := by
  have columns := Nat.mul_le_mul_right shape.pixel fits.columns
  rw [Nat.add_mul] at columns
  refine ⟨length_le_pitch fits, Nat.le_trans (Nat.le_add_left _ _) columns, ?_, ?_⟩
  · intro row below
    have length : region.hostLength shape.pixel = region.pitch shape.pixel * region.extent.y := by
      rw [hostLength, if_pos free, fits.flat.2, Nat.mul_one, pitch]
    exact row_inside (length_le_pitch fits) (length ▸ covered) below
  · intro row below
    have low : region.origin.y + row < shape.height :=
      Nat.lt_of_lt_of_le (Nat.add_lt_add_left below _) fits.rows
    have size : shape.width * shape.pixel * shape.height = deviceSize := by
      rw [filled, Nat.mul_right_comm]
    have within := row_inside (Nat.le_refl _) (Nat.le_of_eq size) low
    rw [Nat.add_mul] at within
    show region.origin.y * (shape.width * shape.pixel) + region.origin.x * shape.pixel +
      row * (shape.width * shape.pixel) + region.extent.x * shape.pixel ≤ deviceSize
    omega

end ImageRegion
end Offload

namespace Offload.Simulator
variable {store : Store} {id : Nat} {memory : Memory} {shape : ImageShape} {region : ImageRegion}

theorem imageRows_of_fits (shaped : memory.shape? = some shape) (fits : region.Fits shape) :
    imageRows memory region.origin region.extent region.rowPitch = .ok (region.plan shape) := by
  have inside : ¬ (region.origin.x + region.extent.x > shape.width ∨
      region.origin.y + region.extent.y > shape.height) := by
    have columns := fits.columns
    have rows := fits.rows
    omega
  have pitched : ¬ (region.rowPitch ≠ 0 ∧ region.rowPitch < region.extent.x * shape.pixel) := by
    have pitched := fits.pitched
    omega
  simp only [imageRows, shaped, if_neg inside, if_neg pitched]
  rfl

theorem imageRows_of_misfit (shaped : memory.shape? = some shape)
    (flat : region.origin.z = 0 ∧ region.extent.z = 1) (misfit : ¬ region.Fits shape) :
    imageRows memory region.origin region.extent region.rowPitch = refuse .invalidValue := by
  simp only [imageRows, shaped]
  split
  · rfl
  · rename_i inside
    split
    · rfl
    · rename_i pitched
      exact (misfit ⟨flat, by omega, by omega, by omega⟩).elim

namespace Store

section
variable (slicePitch : Nat) (located : store.memory id = .ok memory) (shaped : memory.shape? = some shape)
include located shaped

theorem effect_writeImage (fits : region.Fits shape) (data : Block) :
    store.effect (.writeImage id (some region.origin) (some region.extent) region.rowPitch slicePitch
      (some data)) =
        .ok { change := some (id, memory.data.patch ((region.plan shape).upload data)) } := by
  rw [effect, writeImage, imageWindow, if_pos fits.flat, located]
  dsimp only [bind, Except.bind]
  rw [imageRows_of_fits shaped fits]

private theorem effect_readImage (fits : region.Fits shape) :
    store.effect (.readImage id (some region.origin) (some region.extent) region.rowPitch slicePitch
      true) = .ok { writes := (region.plan shape).fetch memory.data } := by
  rw [effect, readImage, imageWindow, if_pos fits.flat, located]
  dsimp only [bind, Except.bind]
  rw [imageRows_of_fits shaped fits]
  rfl

/-- A region that does not fit is refused whichever way its pixels would go. -/
theorem transfers_of_misfit (misfit : ¬ region.Fits shape) :
    (∀ data, store.effect (.writeImage id (some region.origin) (some region.extent) region.rowPitch
      slicePitch data) = refuse .invalidValue) ∧
    ∀ target, store.effect (.readImage id (some region.origin) (some region.extent) region.rowPitch
      slicePitch target) = refuse .invalidValue := by
  have windowed : imageWindow (some region.origin) (some region.extent) = refuse .invalidValue ∨
      (imageWindow (some region.origin) (some region.extent) = .ok (region.origin, region.extent) ∧
        imageRows memory region.origin region.extent region.rowPitch = refuse .invalidValue) := by
    by_cases flat : region.origin.z = 0 ∧ region.extent.z = 1
    · rw [imageWindow, if_pos flat]
      exact Or.inr ⟨rfl, imageRows_of_misfit shaped flat misfit⟩
    · rw [imageWindow, if_neg flat]
      exact Or.inl rfl
  constructor
  · intro data
    rw [effect, writeImage]
    rcases windowed with outside | ⟨opened, misplaced⟩
    · rw [outside]
      rfl
    · rw [opened, located]
      dsimp only [bind, Except.bind]
      rw [misplaced]
      rfl
  · intro target
    rw [effect, readImage]
    rcases windowed with outside | ⟨opened, misplaced⟩
    · rw [outside]
      rfl
    · rw [opened, located]
      dsimp only [bind, Except.bind]
      rw [misplaced]
      rfl

end
end Store
end Offload.Simulator

namespace Offload.Host
open Simulator

/-- A live image whose owner knows the size of its pixels. -/
structure Framed (machine : Machine) (image : Memory) (stored : Simulator.Memory) (shape : ImageShape) :
    Prop where
  located : machine.store.memory image.owned.handle = .ok stored
  shaped : stored.shape? = some shape
  known : image.format?.bind ImageFormat.pixelSize? = some shape.pixel
  filled : stored.data.size = shape.width * shape.height * shape.pixel

/-- The runtime and the owner of an image agree about its pixels. -/
theorem Imaged.framed {machine : Machine} {image : Memory} (imaged : Imaged machine image)
    (reachable : machine.Reachable) {stored : Simulator.Memory}
    (located : machine.store.memory image.owned.handle = .ok stored) {pixel : Nat}
    (known : image.format?.bind ImageFormat.pixelSize? = some pixel) :
    ∃ width height, Framed machine image stored ⟨width, height, pixel⟩ := by
  obtain ⟨format, formatted, described⟩ := imaged.pixel_eq
  obtain ⟨⟨width, height, size⟩, shaped, sized⟩ := described stored located
  have same : size = pixel := by
    rw [formatted] at known
    exact Option.some.inj (sized.symm.trans (ImageFormat.pixelSize?_ofRaw known))
  subst same
  have filled : stored.data.size = width * height * size := by
    have fitting := reachable.wellFormed (Store.memory_ok_iff.mp located)
    obtain ⟨data, shape?⟩ := stored
    cases fitting with
    | buffer => cases shaped
    | image _ _ filled =>
      cases shaped
      exact filled
  exact ⟨width, height, located, shaped, known, filled⟩

section
variable {scene : Scene Machine} {queue : Queue} {waits : List Event} {image : Memory}
  {stored : Simulator.Memory} {shape : ImageShape} {region : ImageRegion}

theorem imageDataError?_eq (framed : Framed scene.world image stored shape) (region : ImageRegion)
    (length : Nat) :
    Queue.imageDataError? image region length =
      if length < region.hostLength shape.pixel then some (.native .invalidValue) else none := by
  rw [Queue.imageDataError?, framed.known]

variable (reachable : scene.world.Reachable) (ready : Ready scene.world queue waits)
  (framed : Framed scene.world image stored shape)
include reachable ready framed

/-- A region that fits is written row by row. -/
theorem writeImage_carries_out (fits : region.Fits shape) {data : Block}
    (covered : region.hostLength shape.pixel ≤ data.size) :
    ∃ event after, (queue.writeImage Machine.driver image region data waits).perform scene =
        (.ok event, after) ∧
      Carried scene.world after.world { change := some (image.owned.handle,
        stored.data.patch ((region.plan shape).upload data)) } event.owned.handle := by
  have passed := (imageDataError?_eq framed region data.size).trans (if_neg (Nat.not_lt.mpr covered))
  have held := reachable.ne_zero (Store.memory_ok_iff.mp framed.located)
  have named := settles_command held fun handle => .writeImage handle (some region.origin)
    (some region.extent) region.rowPitch region.slicePitch (some data)
  have accepted := Store.effect_writeImage region.slicePitch framed.located framed.shaped fits data
  rw [Queue.writeImage, passed]
  exact ready.carries_out reachable named accepted

/-- Writing a region that fits replaces its pixels. -/
theorem writeImage_stores (fits : region.Fits shape) (free : region.slicePitch = 0) {data : Block}
    (covered : region.hostLength shape.pixel ≤ data.size) :
    Stores (queue.writeImage Machine.driver image region data waits) scene image.owned.handle stored
      (Block.Conveys (region.Pairs shape) data stored.data) := by
  obtain ⟨event, after, performed, carried⟩ := writeImage_carries_out reachable ready framed fits covered
  have placed := RowPlan.conveys_upload (fits.plan_fits free covered framed.filled)
  exact ⟨event, after, _, performed, carried.rewrites rfl framed.located, placed.congr fun host device =>
    region.plan_pairs_iff host device⟩

/-- Reading a region that fits replaces its pixels in host memory. -/
theorem readImage_fetches (fits : region.Fits shape) (free : region.slicePitch = 0) {memory : Block}
    (covered : region.hostLength shape.pixel ≤ memory.size) :
    Fetches (queue.readImage Machine.driver image region memory waits) scene
      (Block.Conveys (fun device host => region.Pairs shape host device) stored.data memory) := by
  have passed := (imageDataError?_eq framed region memory.size).trans (if_neg (Nat.not_lt.mpr covered))
  have held := reachable.ne_zero (Store.memory_ok_iff.mp framed.located)
  have named := settles_command held fun handle => .readImage handle (some region.origin)
    (some region.extent) region.rowPitch region.slicePitch true
  have accepted := Store.effect_readImage region.slicePitch framed.located framed.shaped fits
  have placed := RowPlan.conveys_fetch (fits.plan_fits free covered framed.filled)
  rw [Queue.readImage, passed]
  exact ready.fetches reachable named accepted rfl (placed.congr fun device host =>
    region.plan_pairs_iff host device)

/-- A region that does not fit is refused, if not for its data then for itself. -/
theorem transfers_refused (misfit : ¬ region.Fits shape) :
    (∀ data, Refused (queue.writeImage Machine.driver image region data waits) scene .invalidValue) ∧
      ∀ memory, Withholds (queue.readImage Machine.driver image region memory waits) scene memory
        .invalidValue := by
  have held := reachable.ne_zero (Store.memory_ok_iff.mp framed.located)
  obtain ⟨write, read⟩ := Store.transfers_of_misfit region.slicePitch framed.located framed.shaped misfit
  constructor
  · intro data
    rw [Queue.writeImage, imageDataError?_eq framed]
    by_cases short : data.size < region.hostLength shape.pixel
    · rw [if_pos short]
      exact ⟨scene, rfl, rfl⟩
    · rw [if_neg short]
      have named := settles_command held fun handle => .writeImage handle (some region.origin)
        (some region.extent) region.rowPitch region.slicePitch (some data)
      exact ready.refused reachable named (write (some data))
  · intro memory
    rw [Queue.readImage, imageDataError?_eq framed]
    by_cases short : memory.size < region.hostLength shape.pixel
    · rw [if_pos short]
      exact ⟨scene, rfl, rfl⟩
    · rw [if_neg short]
      have named := settles_command held fun handle => .readImage handle (some region.origin)
        (some region.extent) region.rowPitch region.slicePitch true
      exact ready.withholds reachable named (read true) memory

/-- Only regions that fit and are covered are written. -/
theorem not_accepts_writeImage {data : Block}
    (unfit : ¬ (region.Fits shape ∧ region.hostLength shape.pixel ≤ data.size)) :
    ¬ Accepts (queue.writeImage Machine.driver image region data waits) scene := by
  by_cases fits : region.Fits shape
  · have short : data.size < region.hostLength shape.pixel := by
      apply Nat.lt_of_not_le
      intro covered
      exact unfit ⟨fits, covered⟩
    rw [Queue.writeImage, imageDataError?_eq framed, if_pos short]
    exact not_accepts_fail _ scene
  · exact ((transfers_refused reachable ready framed fits).1 data).not_accepts

/-- A region that is read back as it was written, whatever the distances between its rows are. -/
theorem readImage_of_written {other : ImageRegion} (fits : region.Fits shape)
    (free : region.slicePitch = 0) (otherFits : other.Fits shape) (otherFree : other.slicePitch = 0)
    (origin : other.origin = region.origin) (extent : other.extent = region.extent) {data memory : Block}
    (covered : region.hostLength shape.pixel ≤ data.size)
    (otherCovered : other.hostLength shape.pixel ≤ memory.size) :
    ∃ event after, (queue.writeImage Machine.driver image region data waits).perform scene =
        (.ok event, after) ∧
      ∀ later, later.length < halfRange → (∀ wait ∈ later, wait ∈ event :: waits) →
        Fetches (queue.readImage Machine.driver image other memory later) after fun result =>
          ∀ column < region.extent.x, ∀ row < region.extent.y, ∀ byte < shape.pixel,
            result.bytes[other.hostIndex shape.pixel column row byte]? =
              data.bytes[region.hostIndex shape.pixel column row byte]? := by
  obtain ⟨event, after, performed, carried⟩ := writeImage_carries_out reachable ready framed fits covered
  have placed := RowPlan.conveys_upload (fits.plan_fits free covered framed.filled)
  have rewritten := carried.rewrites rfl framed.located
  refine ⟨event, after, performed, fun later few known => ?_⟩
  have framedAfter : Framed after.world image
      { stored with data := stored.data.patch ((region.plan shape).upload data) } shape :=
    ⟨rewritten.written, framed.shaped, framed.known, (Block.size_patch _ _).trans framed.filled⟩
  obtain ⟨last, final, result, read, extended, fetched⟩ :=
    readImage_fetches carried.reachable (ready.carried carried few known) framedAfter otherFits otherFree
      otherCovered
  refine ⟨last, final, result, read, extended, fun column wide row high byte small => ?_⟩
  have back : other.Pairs shape (other.hostIndex shape.pixel column row byte)
      (shape.index (region.origin.x + column) (region.origin.y + row) byte) :=
    ⟨column, extent ▸ wide, row, extent ▸ high, byte, small, rfl, by rw [origin]⟩
  have forth : region.Pairs shape (region.hostIndex shape.pixel column row byte)
      (shape.index (region.origin.x + column) (region.origin.y + row) byte) :=
    ⟨column, wide, row, high, byte, small, rfl, rfl⟩
  rw [fetched.copied _ _ back]
  exact placed.copied _ _ ((region.plan_pairs_iff _ _).mp forth)

end

/-- Transfers between host memory and an image move the pixels of the regions that they name. -/
theorem image_transfers_exact {scene : Scene Machine} {queue : Queue} {waits : List Event}
    {image : Memory} {stored : Simulator.Memory} {pixel : Nat} (reachable : scene.world.Reachable)
    (ready : Ready scene.world queue waits) (imaged : Imaged scene.world image)
    (located : scene.world.store.memory image.owned.handle = .ok stored)
    (known : image.format?.bind ImageFormat.pixelSize? = some pixel) :
    ∃ width height, stored.shape? = some ⟨width, height, pixel⟩ ∧
      stored.data.size = width * height * pixel ∧ ∀ region : ImageRegion,
        (region.Fits ⟨width, height, pixel⟩ → region.slicePitch = 0 →
          (∀ data : Block, region.hostLength pixel ≤ data.size →
            Stores (queue.writeImage Machine.driver image region data waits) scene image.owned.handle
              stored (Block.Conveys (region.Pairs ⟨width, height, pixel⟩) data stored.data)) ∧
          (∀ memory : Block, region.hostLength pixel ≤ memory.size →
            Fetches (queue.readImage Machine.driver image region memory waits) scene
              (Block.Conveys (fun device host => region.Pairs ⟨width, height, pixel⟩ host device)
                stored.data memory)) ∧
          ∀ (other : ImageRegion) (data memory : Block), other.Fits ⟨width, height, pixel⟩ →
            other.slicePitch = 0 → other.origin = region.origin → other.extent = region.extent →
            region.hostLength pixel ≤ data.size → other.hostLength pixel ≤ memory.size →
              ∃ event after, (queue.writeImage Machine.driver image region data waits).perform scene =
                  (.ok event, after) ∧
                ∀ later, later.length < halfRange → (∀ wait ∈ later, wait ∈ event :: waits) →
                  Fetches (queue.readImage Machine.driver image other memory later) after fun result =>
                    ∀ column < region.extent.x, ∀ row < region.extent.y, ∀ byte < pixel,
                      result.bytes[other.hostIndex pixel column row byte]? =
                        data.bytes[region.hostIndex pixel column row byte]?) ∧
        (¬ region.Fits ⟨width, height, pixel⟩ →
          (∀ data, Refused (queue.writeImage Machine.driver image region data waits) scene
            .invalidValue) ∧
          ∀ memory, Withholds (queue.readImage Machine.driver image region memory waits) scene memory
            .invalidValue) := by
  obtain ⟨width, height, framed⟩ := imaged.framed reachable located known
  refine ⟨width, height, framed.shaped, framed.filled, fun region => ⟨?_, ?_⟩⟩
  · intro fits free
    refine ⟨?_, ?_, ?_⟩
    · intro data covered
      exact writeImage_stores reachable ready framed fits free covered
    · intro memory covered
      exact readImage_fetches reachable ready framed fits free covered
    · intro other data memory otherFits otherFree origin extent covered otherCovered
      exact readImage_of_written reachable ready framed fits free otherFits otherFree origin extent covered
        otherCovered
  · intro misfit
    exact transfers_refused reachable ready framed misfit

/-- The right column of an image of four pixels, from rows that are three bytes apart. -/
def tallRegion : ImageRegion := { origin := ⟨1, 0, 0⟩, extent := ⟨1, 2, 1⟩, rowPitch := 3 }

private theorem tallRegion_fits : tallRegion.Fits ⟨2, 2, 1⟩ where
  flat := ⟨rfl, rfl⟩
  columns := Nat.le_refl 2
  rows := Nat.le_refl 2
  pitched := Or.inr (by decide)

private theorem reachable_imaging : imaging.2.world.Reachable :=
  ⟨1, 1, [.call (.createContext ⟨1, some [deviceId 0 0]⟩),
    .call (.createQueue (handleOf 1) (deviceId 0 0) 0),
    .call (.createImage (handleOf 1) 0 (some (Context.byteFormat .intensity).toRaw)
      (some (.flat 2 2)) none)], rfl⟩

private theorem ready_imaging : Ready imaging.2.world readiedQueue [] where
  serving := rfl
  allowed := fun _ => rfl
  queued := ⟨0, rfl⟩
  listed := fun _ waiting => nomatch waiting
  few := by decide

/-- The first bytes of two rows go to the right column, and the left one stays blank. -/
theorem tallRegion_written :
    (imaging.2.world.Reachable ∧ Ready imaging.2.world readiedQueue [] ∧
      Imaged imaging.2.world smallImage ∧
      imaging.2.world.store.memory smallImage.owned.handle = .ok ⟨Block.zeros 4, some ⟨2, 2, 1⟩⟩ ∧
      smallImage.format?.bind ImageFormat.pixelSize? = some 1) ∧
    Stores (readiedQueue.writeImage Machine.driver smallImage tallRegion (.ofBytes [1, 2, 3, 4, 5, 6]) [])
      imaging.2 (handleOf 3) ⟨Block.zeros 4, some ⟨2, 2, 1⟩⟩
      (Block.Conveys (tallRegion.Pairs ⟨2, 2, 1⟩) (.ofBytes [1, 2, 3, 4, 5, 6]) (Block.zeros 4)) := by
  have located : imaging.2.world.store.memory smallImage.owned.handle =
      .ok ⟨Block.zeros 4, some ⟨2, 2, 1⟩⟩ := rfl
  have known : smallImage.format?.bind ImageFormat.pixelSize? = some 1 := rfl
  refine ⟨⟨reachable_imaging, ready_imaging, imaged_smallImage, located, known⟩, ?_⟩
  obtain ⟨width, height, shaped, _, transfers⟩ :=
    image_transfers_exact reachable_imaging ready_imaging imaged_smallImage located known
  cases shaped
  exact ((transfers tallRegion).1 tallRegion_fits rfl).1 _ (by decide)

end Offload.Host
